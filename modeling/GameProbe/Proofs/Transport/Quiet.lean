import GameProbe.Proofs.Transport.Mirror

/-!
# Streams on which nothing fails

Peers to which everything can be written, and those of them that give just a string of bytes. Over
what carries such a peer, in whatever pieces, a request goes out whole, and a decoder does what it
does on the string.
-/

namespace GameProbe

open EStateM.Result Peer Carrier Decoder

/-! ### Peers -/

namespace Traffic

variable {t : Traffic} {bytes : Bytes} {rest : List (Except Fault UInt8)}

/-- Writing, flushing and setting a time limit do not fail. -/
structure Quiet (t : Traffic) : Prop where
  writeFaults : t.writeFaults = []
  flushFault : t.flushFault = none
  timeoutFault : t.timeoutFault = none

lemma gives_of_incoming (h : t.incoming = bytes.map .ok ++ rest) :
    Gives bytes t { t with incoming := rest } := by
  induction bytes generalizing t with
  | nil =>
    subst h
    rfl
  | cons b bs ih =>
    refine ⟨{ t with incoming := bs.map .ok ++ rest }, ?_, ih rfl⟩
    show t.receive = _
    rw [receive, h]
    rfl

namespace Quiet

/-- Nothing fails later on either. -/
lemma later (h : t.Quiet) (incoming : List (Except Fault UInt8)) (written : Bytes) :
    Quiet { t with incoming, written } := ⟨h.writeFaults, h.flushFault, h.timeoutFault⟩

lemma sendAll (h : t.Quiet) (bytes : Bytes) :
    sendAll bytes t = .ok () { t with written := t.written ++ bytes } := by
  induction bytes generalizing t with
  | nil =>
    rw [List.append_nil]
    rfl
  | cons b bs ih =>
    have hsend : Peer.send b t = .ok true { t with written := t.written ++ [b] } := by
      show t.send b = _
      simp only [Traffic.send, take, h.writeFaults]
    rw [Peer.sendAll]
    simp only [hsend]
    rw [ih (h.later t.incoming _), List.append_assoc]
    rfl

lemma flush (h : t.Quiet) : Peer.flush t = .ok () t := by
  show failIf t.flushFault t = _
  rw [h.flushFault]
  rfl

lemma setReadTimeout (h : t.Quiet) (timeout : Timeout) :
    Transport.setReadTimeout timeout t = .ok () t := by
  show failIf t.timeoutFault t = _
  rw [h.timeoutFault]
  rfl

end Quiet

/-- Nothing fails, and the bytes are all that is to come. -/
structure Offers (t : Traffic) (bytes : Bytes) : Prop extends Quiet t where
  incoming : t.incoming = bytes.map .ok

/-- The traffic when `left` is left to be read and `request` has been written. -/
def after (left request : Bytes) (t : Traffic) : Traffic :=
  { t with incoming := left.map .ok, written := t.written ++ request }

lemma Offers.after (h : t.Offers bytes) (left request : Bytes) :
    (t.after left request).Offers left := ⟨h.toQuiet.later _ _, rfl⟩

lemma Offers.after_nil (h : t.Offers bytes) : t.after bytes [] = t := by
  rw [Traffic.after, ← h.incoming, List.append_nil]

lemma Offers.wrote (h : t.Offers bytes) (request : Bytes) :
    { t with written := t.written ++ request } = t.after bytes request := by
  rw [Traffic.after, ← h.incoming]

@[simp] lemma after_after (t : Traffic) (left left' request request' : Bytes) :
    (t.after left request).after left' request' = t.after left' (request ++ request') := by
  rw [after, after, after, List.append_assoc]

end Traffic

/-! ### What carries them -/

section Carriers

variable {σ α : Type} [StreamTransport σ] [Carrier σ Traffic] {s : σ} {config : Config}
  {request bytes : Bytes}

/-- What goes well with the peer goes well with what carries it. -/
lemma liftIo_of_view {act : EStateM IoError σ α} {a : α} {t : Traffic}
    (h : (act s).mapState view = .ok a t) : ∃ s', liftIo act s = .ok a s' ∧ view s' = t := by
  obtain ⟨s', hact, hview⟩ := mapState_eq_ok_iff.mp h
  refine ⟨s', ?_, hview⟩
  simp only [liftIo, hact]

lemma writeRequest_of_quiet (hquiet : (view s).Quiet) (request : Bytes) :
    ∃ s', writeRequest request s = .ok () s' ∧
      view s' = { view s with written := (view s).written ++ request } := by
  obtain ⟨s₁, hwrite, hview₁⟩ := liftIo_of_view ((writeAll_view request s).trans (hquiet.sendAll _))
  have hquiet₁ : (view s₁).Quiet := hview₁ ▸ hquiet.later _ _
  obtain ⟨s₂, hflush, hview₂⟩ := liftIo_of_view ((flush_view s₁).trans hquiet₁.flush)
  exact ⟨s₂, (bind_of_ok hwrite).trans hflush, hview₂.trans hview₁⟩

lemma limitReads_of_quiet (hquiet : (view s).Quiet) (config : Config) :
    ∃ s', limitReads config s = .ok () s' ∧ view s' = view s :=
  liftIo_of_view ((setReadTimeout_view config.readTimeout s).trans (hquiet.setReadTimeout _))

/-- A request is written whole, and then what is to come is read. -/
lemma ask_of_quiet (hquiet : (view s).Quiet) (config : Config) (request : Bytes)
    (d : Decoder σ α) :
    ∃ s', view s' = { view s with written := (view s).written ++ request } ∧
      (do writeRequest request; limitReads config; d) s = d s' := by
  obtain ⟨s₁, hrequest, hview₁⟩ := writeRequest_of_quiet hquiet request
  have hquiet₁ : (view s₁).Quiet := hview₁ ▸ hquiet.later _ _
  obtain ⟨s₂, hlimits, hview₂⟩ := limitReads_of_quiet hquiet₁ config
  exact ⟨s₂, hview₂.trans hview₁, by rw [bind_of_ok hrequest, bind_of_ok hlimits]⟩

/-- Where just a string of bytes is to come, one decoder does what the other does on the string, and
leaves just what that leaves. -/
def Decoder.Streams (d : Decoder σ α) (d' : Decoder Bytes α) : Prop :=
  ∀ (s : σ) bytes, (view s).incoming = bytes.map .ok →
    (d s).mapState view = (d' bytes).mapState fun left => (view s).after left []

lemma Decoder.Mirrors.streams {d : Decoder σ α} {d' : Decoder Bytes α} (hd : Mirrors d d') :
    Streams d d' := by
  intro s bytes h
  have hafter (left : Bytes) :
      { view s with incoming := left.map .ok } = (view s).after left [] := by
    rw [Traffic.after, List.append_nil]
  rcases hd bytes with ⟨c, left, result, rfl, hsettles⟩ | ⟨expected, received, hstarves⟩
  · rw [List.map_append] at h
    rw [hsettles.stream s _ (Traffic.gives_of_incoming h), hsettles.bytes, hafter]
    cases result <;> rfl
  · rw [← List.append_nil (bytes.map Except.ok)] at h
    rw [hstarves.closed s _ _ (Traffic.gives_of_incoming h) rfl, hstarves.bytes]
    exact congrArg (EStateM.Result.error _) (hafter [])

/-- What is read behind a request is what is read from the bytes that are to come. -/
lemma ask_of_offers {d : Decoder σ α} {d' : Decoder Bytes α} (hd : Streams d d')
    (hoffers : (view s).Offers bytes) (config : Config) (request : Bytes) :
    ((do writeRequest request; limitReads config; d) s).mapState view =
      (d' bytes).mapState fun left => (view s).after left request := by
  obtain ⟨s', hview, hask⟩ := ask_of_quiet hoffers.toQuiet config request d
  rw [hoffers.wrote] at hview
  rw [hask, hd s' bytes (hview ▸ rfl), hview]
  simp only [Traffic.after_after, List.append_nil]

/-- From a stream of whole bytes a decoder brings what it brings from a string of them. -/
lemma Decoder.Mirrors.toExcept_of_incoming {d : Decoder σ α} {d' : Decoder Bytes α}
    (hd : Mirrors d d') (h : (view s).incoming = bytes.map .ok) :
    (d s).toExcept = (d' bytes).toExcept := by
  rw [← toExcept_mapState (d s), hd.streams s bytes h, toExcept_mapState]

end Carriers

end GameProbe
