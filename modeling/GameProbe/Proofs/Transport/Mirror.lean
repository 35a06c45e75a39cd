import GameProbe.Proofs.Transport.Traffic
import GameProbe.Proofs.Wire.SelfDelimiting
import GameProbe.Rcon.Packet
import GameProbe.Status.Frame

/-!
# Decoding from a stream

A decoder does on the stream of a peer what it does on a byte string: a beginning of the bytes
decides, and what comes behind it is left alone. If the bytes do not suffice, the decoder goes on to
what comes behind them, a failure or the end of the stream, and all that it has read is gone.
-/

/-- An outcome, with the state that it leaves. -/
def Except.leaving {ε σ α : Type} (s : σ) : Except ε α → EStateM.Result ε σ α
  | .ok a => .ok a s
  | .error e => .error e s

@[simp] lemma EStateM.Result.toExcept_leaving {ε σ α : Type} (result : Except ε α) (s : σ) :
    (result.leaving s).toExcept = result := by
  cases result <;> rfl

namespace GameProbe

open EStateM.Result Peer Carrier

variable {σ π α β : Type} [StreamTransport σ] [Peer π] [Carrier σ π]

namespace Decoder

/-- The bytes `c` decide what the decoder brings, on a byte string and on a stream. -/
structure Settles (d : Decoder σ α) (d' : Decoder Bytes α) (c : Bytes) (result : Except Error α) :
    Prop where
  bytes : ∀ x, d' (c ++ x) = result.leaving x
  stream : ∀ (s : σ) p, Gives c (view s) p → (d s).mapState view = result.leaving p

/-- The bytes `b` do not suffice: `expected` bytes were to be read, and `received` of them had come
when the next one did not. -/
structure Starves (d : Decoder σ α) (d' : Decoder Bytes α) (b : Bytes) (expected received : Nat) :
    Prop where
  bytes : d' b = .error (.connectionClosed expected received) []
  closed : ∀ (s : σ) p p', Gives b (view s) p → receive p = .ok none p' →
    (d s).mapState view = .error (.connectionClosed expected received) p'
  fault : ∀ (s : σ) p p' e, Gives b (view s) p → receive p = .error e p' →
    (d s).mapState view = .error (.io e) p'

/-- The bytes `c` decide what the decoder brings, whatever that is. -/
def Settled (d : Decoder σ α) (d' : Decoder Bytes α) (c : Bytes) : Prop :=
  ∃ result, Settles d d' c result

/-- One decoder does on a stream what the other does on a byte string. -/
def Mirrors (d : Decoder σ α) (d' : Decoder Bytes α) : Prop :=
  ∀ b, (∃ c left result, b = c ++ left ∧ Settles d d' c result) ∨
    ∃ expected received, Starves d d' b expected received

variable {d : Decoder σ α} {d' : Decoder Bytes α} {f : α → Decoder σ β} {f' : α → Decoder Bytes β}
  {b c c' : Bytes} {expected received : Nat}

/-! ### Combinations -/

/-- What the bytes decide is what comes of them alone. -/
lemma Settles.toExcept_bytes {result : Except Error α} (h : Settles d d' c result) :
    (d' c).toExcept = result := by
  have hbytes := h.bytes []
  rw [List.append_nil] at hbytes
  rw [hbytes, toExcept_leaving]

/-- Bytes with which the decoder succeeds are bytes that decide so. -/
lemma Settles.exists_ok_iff {result : Except Error α} (h : Settles d d' c result) (x : Bytes) :
    (∃ a rest, d' (c ++ x) = .ok a rest) ↔ ∃ a, result = .ok a := by
  rw [h.bytes]
  cases result <;> simp [Except.leaving]

/-- What reads nothing has its outcome decided by no bytes. -/
lemma Settles.of_unread {result : Except Error α} (hbytes : ∀ x, d' x = result.leaving x)
    (hstream : ∀ s, d s = result.leaving s) : Settles d d' [] result where
  bytes := hbytes
  stream s p h := by
    obtain rfl : p = view s := h
    rw [hstream]
    cases result <;> rfl

lemma Settles.pure (a : α) : Settles (Pure.pure a : Decoder σ α) (Pure.pure a) [] (.ok a) :=
  .of_unread (fun _ => rfl) fun _ => rfl

lemma Settles.throw (e : Error) :
    Settles (throw e : Decoder σ α) (throw e) [] (.error e) :=
  .of_unread (fun _ => rfl) fun _ => rfl

lemma Settles.within (run : Bytes) (d : Decoder Bytes α) :
    Settles (d.within run : Decoder σ α) (d.within run) [] (d run).toExcept := by
  have hwithin {τ : Type} (s : τ) :
      (d.within run : EStateM Error τ α) s = (d run).toExcept.leaving s := by
    unfold Decoder.within
    cases d run <;> rfl
  exact .of_unread hwithin hwithin

lemma Settles.bind_ok {a : α} {result : Except Error β} (hd : Settles d d' c (.ok a))
    (hf : Settles (f a) (f' a) c' result) : Settles (d >>= f) (d' >>= f') (c ++ c') result where
  bytes x := by
    rw [List.append_assoc, bind_of_ok (hd.bytes _)]
    exact hf.bytes x
  stream s p h := by
    obtain ⟨p₁, hc, hc'⟩ := gives_append.mp h
    obtain ⟨s₁, hs₁, rfl⟩ := mapState_eq_ok_iff.mp (hd.stream s p₁ hc)
    rw [bind_of_ok hs₁]
    exact hf.stream s₁ p hc'

/-- What reads nothing more leaves it at the bytes that have been read. -/
lemma Settles.bind_unread {a : α} {result : Except Error β} (hd : Settles d d' c (.ok a))
    (hf : Settles (f a) (f' a) [] result) : Settles (d >>= f) (d' >>= f') c result := by
  rw [← List.append_nil c]
  exact hd.bind_ok hf

lemma Settles.bind_error {e : Error} (hd : Settles d d' c (.error e)) :
    Settles (d >>= f) (d' >>= f') c (.error e) where
  bytes x := bind_of_error (hd.bytes x)
  stream s p h := by
    obtain ⟨s₁, hs₁, rfl⟩ := mapState_eq_error_iff.mp (hd.stream s p h)
    rw [bind_of_error hs₁]
    rfl

lemma Settles.bind_starves {a : α} (hd : Settles d d' c (.ok a))
    (hf : Starves (f a) (f' a) b expected received) :
    Starves (d >>= f) (d' >>= f') (c ++ b) expected received where
  bytes := (bind_of_ok (hd.bytes b)).trans hf.bytes
  closed s p p' h hp := by
    obtain ⟨p₁, hc, hb⟩ := gives_append.mp h
    obtain ⟨s₁, hs₁, rfl⟩ := mapState_eq_ok_iff.mp (hd.stream s p₁ hc)
    rw [bind_of_ok hs₁]
    exact hf.closed s₁ p p' hb hp
  fault s p p' e h hp := by
    obtain ⟨p₁, hc, hb⟩ := gives_append.mp h
    obtain ⟨s₁, hs₁, rfl⟩ := mapState_eq_ok_iff.mp (hd.stream s p₁ hc)
    rw [bind_of_ok hs₁]
    exact hf.fault s₁ p p' e hb hp

lemma Starves.bind (hd : Starves d d' b expected received) :
    Starves (d >>= f) (d' >>= f') b expected received where
  bytes := bind_of_error hd.bytes
  closed s p p' h hp := by
    obtain ⟨s₁, hs₁, rfl⟩ := mapState_eq_error_iff.mp (hd.closed s p p' h hp)
    rw [bind_of_error hs₁]
    rfl
  fault s p p' e h hp := by
    obtain ⟨s₁, hs₁, rfl⟩ := mapState_eq_error_iff.mp (hd.fault s p p' e h hp)
    rw [bind_of_error hs₁]
    rfl

lemma Settles.bind_settled {a : α} (hd : Settles d d' c (.ok a))
    (hf : Settled (f a) (f' a) c') : Settled (d >>= f) (d' >>= f') (c ++ c') :=
  hf.imp fun _ => hd.bind_ok

/-- What the bytes decide is what comes of them on a byte string. -/
lemma Settled.settles (hd : Settled d d' c) : Settles d d' c (d' c).toExcept := by
  obtain ⟨result, hd⟩ := hd
  rwa [hd.toExcept_bytes]

/-- What is done behind the bytes that decide does not read on. -/
lemma Settled.bind (hd : Settled d d' c) (hf : ∀ a, Settled (f a) (f' a) []) :
    Settled (d >>= f) (d' >>= f') c := by
  obtain ⟨result, hd⟩ := hd
  cases result with
  | error e => exact ⟨.error e, hd.bind_error⟩
  | ok a => exact (hf a).imp fun _ => hd.bind_unread

namespace Mirrors

lemma of_settles {result : Except Error α} (h : Settles d d' [] result) : Mirrors d d' :=
  fun b => .inl ⟨[], b, result, rfl, h⟩

lemma pure (a : α) : Mirrors (Pure.pure a : Decoder σ α) (Pure.pure a) := .of_settles (.pure a)

lemma throw (e : Error) : Mirrors (throw e : Decoder σ α) (throw e) := .of_settles (.throw e)

lemma within (run : Bytes) (d : Decoder Bytes α) :
    Mirrors (d.within run : Decoder σ α) (d.within run) := .of_settles (.within run d)

lemma bind (hd : Mirrors d d') (hf : ∀ a, Mirrors (f a) (f' a)) :
    Mirrors (d >>= f) (d' >>= f') := by
  intro b
  rcases hd b with ⟨c, left, result, rfl, hd⟩ | ⟨expected, received, hd⟩
  · cases result with
    | error e => exact .inl ⟨c, left, .error e, rfl, hd.bind_error⟩
    | ok a =>
      rcases hf a left with ⟨c', left', result, rfl, hf⟩ | ⟨expected, received, hf⟩
      · exact .inl ⟨c ++ c', left', result, (List.append_assoc ..).symm, hd.bind_ok hf⟩
      · exact .inr ⟨expected, received, hd.bind_starves hf⟩
  · exact .inr ⟨expected, received, hd.bind⟩

lemma map (hd : Mirrors d d') (g : α → β) :
    Mirrors (d >>= fun a => Pure.pure (g a)) (d' >>= fun a => Pure.pure (g a)) :=
  hd.bind fun a => .pure (g a)

/-- What reads exactly `n` bytes has them, or starves. -/
lemma of_run {d : Decoder σ Bytes} {d' : Decoder Bytes Bytes} {n : Nat}
    (hstream : ∀ s, (d s).mapState view = receiveRun n (view s))
    (hbytes : ∀ b, d' b = if n ≤ b.length then .ok (b.take n) (b.drop n)
      else .error (.connectionClosed n b.length) []) : Mirrors d d' := by
  intro b
  by_cases hn : n ≤ b.length
  · have hlen : (b.take n).length = n := List.length_take_of_le hn
    refine .inl ⟨b.take n, b.drop n, .ok (b.take n), (List.take_append_drop n b).symm, ?_, ?_⟩
    · intro x
      rw [hbytes, if_pos (by simp [hlen]), List.take_left' hlen, List.drop_left' hlen]
      rfl
    · intro s p h
      have hrun := receiveRun_of_gives h
      rw [hlen] at hrun
      rw [hstream, hrun]
      rfl
  · have hlt : b.length < n := Nat.lt_of_not_le hn
    refine .inr ⟨n, b.length, (hbytes b).trans (if_neg hn), ?_, ?_⟩
    · intro s p p' h hp
      rw [hstream, receiveRun_of_end h hlt hp]
    · intro s p p' e h hp
      rw [hstream, receiveRun_of_fault h hlt hp]

/-- What is read with nothing left decides. -/
lemma settles_of_ok (hd : Mirrors d d') {a : α} (h : d' c = .ok a []) :
    Settles d d' c (.ok a) := by
  rcases hd c with ⟨c, left, result, rfl, hsettles⟩ | ⟨expected, received, hstarves⟩
  · rw [hsettles.bytes] at h
    cases result with
    | ok a' =>
      cases h
      rwa [List.append_nil]
    | error e => cases h
  · rw [hstarves.bytes] at h
    cases h

/-- With the end of a message missing, the bytes do not suffice. -/
lemma starves_of_ok (hd : Mirrors d d') {a : α} {late : Bytes} (h : d' (b ++ late) = .ok a [])
    (hlate : late ≠ []) : ∃ expected received, Starves d d' b expected received := by
  rcases hd b with ⟨c, left, result, rfl, hsettles⟩ | hstarves
  · rw [List.append_assoc, hsettles.bytes] at h
    cases result with
    | ok a' =>
      obtain ⟨-, hnil⟩ := EStateM.Result.ok.inj h
      exact absurd (List.append_eq_nil_iff.mp hnil).2 hlate
    | error e => cases h
  · exact hstarves

end Mirrors

end Decoder

open Decoder

/-! ### Answers on a stream -/

lemma mirrors_readBytes (n : Nat) : Mirrors (readBytes n : Decoder σ Bytes) (readBytes n) :=
  .of_run (readBytes_view n) (readBytes_apply n)

lemma settles_readBytes {n : Nat} {run : Bytes} (h : run.length = n) :
    Settles (readBytes n : Decoder σ Bytes) (readBytes n) run (.ok run) := by
  have hmirrors : Mirrors (readBytes n : Decoder σ Bytes) (readBytes n) := mirrors_readBytes n
  subst h
  refine hmirrors.settles_of_ok ?_
  rw [readBytes_apply, if_pos (Nat.le_refl _), List.take_length, List.drop_length]

lemma mirrors_readByte : Mirrors (readByte : Decoder σ UInt8) readByte :=
  (Mirrors.of_run (fill_view 1) (fill_apply 1)).map _

namespace Wire

lemma mirrors_readBase128 (digits : Nat) (top : UInt8) :
    Mirrors (readBase128 digits top : Decoder σ Nat) (readBase128 digits top) := by
  suffices ∀ place sum, Mirrors (readBase128From top digits place sum : Decoder σ Nat)
      (readBase128From top digits place sum) from this 1 0
  induction digits with
  | zero => exact fun _ _ => .throw _
  | succ digits ih =>
    intro place sum
    refine mirrors_readByte.bind fun b => ?_
    dsimp only
    split
    · exact .throw _
    · split
      · exact .pure _
      · exact ih _ _

lemma mirrors_readUvarint : Mirrors (readUvarint : Decoder σ UInt64) readUvarint :=
  (mirrors_readBase128 10 1).map _

lemma mirrors_readVarint : Mirrors (readVarint : Decoder σ Int32) readVarint :=
  (mirrors_readBase128 5 15).map _

lemma mirrors_readVarlong : Mirrors (readVarlong : Decoder σ Int64) readVarlong :=
  mirrors_readUvarint.map _

lemma mirrors_readUInt16BE : Mirrors (readUInt16BE : Decoder σ UInt16) readUInt16BE :=
  (Mirrors.of_run (fill_view 2) (fill_apply 2)).map _

lemma mirrors_readUInt32LE : Mirrors (readUInt32LE : Decoder σ UInt32) readUInt32LE :=
  (Mirrors.of_run (fill_view 4) (fill_apply 4)).map _

end Wire

namespace Status

lemma mirrors_readFrameOf (packetId : UInt64) :
    Mirrors (readFrameOf packetId : Decoder σ Frame) (readFrameOf packetId) := by
  refine Mirrors.bind (Wire.mirrors_readUvarint.bind fun length => ?_) fun frame => ?_
  · dsimp only
    split
    · exact .throw _
    · exact (mirrors_readBytes _).bind fun run => (Mirrors.within run _).map _
  · dsimp only
    split
    · exact .throw _
    · exact .pure _

lemma mirrors_readResponse (parse : Parser) :
    Mirrors (readResponse parse : Decoder σ Response) (readResponse parse) :=
  (mirrors_readFrameOf _).bind fun frame => (Mirrors.within frame.body _).map _

lemma mirrors_readPong : Mirrors (readPong : Decoder σ Pong) readPong :=
  (mirrors_readFrameOf _).bind fun frame => (Mirrors.within frame.body _).map _

end Status

lemma Rcon.mirrors_readPacket : Mirrors (readPacket : Decoder σ Packet) readPacket := by
  refine Mirrors.bind (Wire.mirrors_readUInt32LE.bind fun length => ?_) fun length =>
    (mirrors_readBytes _).bind fun run => .within run _
  split
  · exact .throw _
  · split
    · exact .throw _
    · exact .pure _

end GameProbe
