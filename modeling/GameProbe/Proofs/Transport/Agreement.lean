import GameProbe.Legacy.Kick
import GameProbe.Proofs.Transport.Peer
import GameProbe.Rcon.Session
import GameProbe.Status.Frame

/-!
# Agreement

Two operations on different states agree if they cannot be told apart by someone who sees the states
through a view only. Everything that reads from carriers of one peer agrees with itself on them.
-/

namespace GameProbe

open EStateM.Result

/-- From states that look the same, the operations come out the same, in states that look the same
again. -/
def Agree {ε σ₁ σ₂ τ α : Type} (f₁ : σ₁ → τ) (f₂ : σ₂ → τ) (m₁ : EStateM ε σ₁ α)
    (m₂ : EStateM ε σ₂ α) : Prop :=
  ∀ s₁ s₂, f₁ s₁ = f₂ s₂ → (m₁ s₁).mapState f₁ = (m₂ s₂).mapState f₂

namespace Agree

variable {ε σ₁ σ₂ τ α β : Type} {f₁ : σ₁ → τ} {f₂ : σ₂ → τ}

/-! ### Combinations -/

/-- Operations with the same view as a third agree. -/
lemma of_view {m₁ : EStateM ε σ₁ α} {m₂ : EStateM ε σ₂ α} {m : τ → EStateM.Result ε τ α}
    (h₁ : ∀ s, (m₁ s).mapState f₁ = m (f₁ s)) (h₂ : ∀ s, (m₂ s).mapState f₂ = m (f₂ s)) :
    Agree f₁ f₂ m₁ m₂ := by
  intro s₁ s₂ hs
  rw [h₁, h₂, hs]

lemma pure (a : α) : Agree f₁ f₂ (pure a : EStateM ε σ₁ α) (pure a) :=
  fun _ _ hs => congrArg (EStateM.Result.ok a) hs

lemma throw (e : ε) : Agree f₁ f₂ (throw e : EStateM ε σ₁ α) (throw e) :=
  fun _ _ hs => congrArg (EStateM.Result.error e) hs

lemma bind {m₁ : EStateM ε σ₁ α} {m₂ : EStateM ε σ₂ α} {k₁ : α → EStateM ε σ₁ β}
    {k₂ : α → EStateM ε σ₂ β} (hm : Agree f₁ f₂ m₁ m₂) (hk : ∀ a, Agree f₁ f₂ (k₁ a) (k₂ a)) :
    Agree f₁ f₂ (m₁ >>= k₁) (m₂ >>= k₂) := by
  intro s₁ s₂ hs
  have h := hm s₁ s₂ hs
  cases h₁ : m₁ s₁ with
  | ok a s₁' =>
    rw [h₁] at h
    obtain ⟨s₂', h₂, hs'⟩ := mapState_eq_ok_iff.mp h.symm
    rw [bind_of_ok h₁, bind_of_ok h₂]
    exact hk a s₁' s₂' hs'.symm
  | error e s₁' =>
    rw [h₁] at h
    obtain ⟨s₂', h₂, hs'⟩ := mapState_eq_error_iff.mp h.symm
    rw [bind_of_error h₁, bind_of_error h₂]
    exact congrArg (EStateM.Result.error e) hs'.symm

/-- What is done with a result is the same on both sides. -/
lemma map {m₁ : EStateM ε σ₁ α} {m₂ : EStateM ε σ₂ α} (hm : Agree f₁ f₂ m₁ m₂) (g : α → β) :
    Agree f₁ f₂ (m₁ >>= fun a => Pure.pure (g a)) (m₂ >>= fun a => Pure.pure (g a)) :=
  hm.bind fun a => .pure (g a)

/-- The states themselves differ, so what is done with them has to agree as well. -/
lemma get_bind {k₁ : σ₁ → EStateM ε σ₁ β} {k₂ : σ₂ → EStateM ε σ₂ β}
    (hk : ∀ s₁ s₂, f₁ s₁ = f₂ s₂ → Agree f₁ f₂ (k₁ s₁) (k₂ s₂)) :
    Agree f₁ f₂ (get >>= k₁) (get >>= k₂) :=
  fun s₁ s₂ hs => hk s₁ s₂ hs s₁ s₂ hs

lemma modify {g₁ : σ₁ → σ₁} {g₂ : σ₂ → σ₂} (hg : ∀ s₁ s₂, f₁ s₁ = f₂ s₂ → f₁ (g₁ s₁) = f₂ (g₂ s₂)) :
    Agree f₁ f₂ (modify g₁ : EStateM ε σ₁ Unit) (modify g₂) :=
  fun s₁ s₂ hs => congrArg (EStateM.Result.ok ()) (hg s₁ s₂ hs)

lemma liftIo {m₁ : EStateM IoError σ₁ α} {m₂ : EStateM IoError σ₂ α} (hm : Agree f₁ f₂ m₁ m₂) :
    Agree f₁ f₂ (liftIo m₁) (liftIo m₂) := by
  intro s₁ s₂ hs
  have h := hm s₁ s₂ hs
  unfold GameProbe.liftIo
  cases h₁ : m₁ s₁ <;> cases h₂ : m₂ s₂ <;> rw [h₁, h₂] at h <;>
    simp_all [mapState]

end Agree

open Agree Carrier

variable {σ₁ σ₂ π α : Type} [StreamTransport σ₁] [StreamTransport σ₂] [Peer π] [Carrier σ₁ π]
  [Carrier σ₂ π]

/-- Agreement as far as the peer can be seen. -/
abbrev Alike (d₁ : EStateM Error σ₁ α) (d₂ : EStateM Error σ₂ α) : Prop := Agree view view d₁ d₂

/-! ### Reading and writing -/

lemma alike_fill (n : Nat) : Alike (fill n : Decoder σ₁ Bytes) (fill n : Decoder σ₂ Bytes) :=
  .of_view (fill_view n) (fill_view n)

lemma alike_readBytes (n : Nat) :
    Alike (readBytes n : Decoder σ₁ Bytes) (readBytes n : Decoder σ₂ Bytes) :=
  .of_view (readBytes_view n) (readBytes_view n)

lemma alike_readByte : Alike (readByte : Decoder σ₁ UInt8) (readByte : Decoder σ₂ UInt8) :=
  (alike_fill 1).map _

lemma alike_within (run : Bytes) (d : Decoder Bytes α) :
    Alike (d.within run : Decoder σ₁ α) (d.within run : Decoder σ₂ α) := by
  intro s₁ s₂ hs
  unfold Decoder.within
  cases d run with
  | ok a rest => exact congrArg (EStateM.Result.ok a) hs
  | error e rest => exact congrArg (EStateM.Result.error e) hs

lemma alike_collect {step₁ : Decoder σ₁ (Option α)} {step₂ : Decoder σ₂ (Option α)}
    (consumes₁ : step₁.Consumes 1) (consumes₂ : step₂.Consumes 1) (hstep : Alike step₁ step₂) :
    Alike (collect step₁ consumes₁) (collect step₂ consumes₂) := by
  suffices ∀ got s₁ s₂, view s₁ = view s₂ →
      (collectFrom step₁ consumes₁ got s₁).mapState view =
        (collectFrom step₂ consumes₂ got s₂).mapState view from this []
  intro got s₁ s₂ hs
  fun_induction collectFrom step₁ consumes₁ got s₁ generalizing s₂ with
  | case1 got s₁ s₁' h₁ =>
    have h := hstep s₁ s₂ hs
    rw [h₁] at h
    obtain ⟨s₂', h₂, hs'⟩ := mapState_eq_ok_iff.mp h.symm
    rw [collectFrom_eq_bind, bind_of_ok h₂]
    exact congrArg (EStateM.Result.ok got.reverse) hs'.symm
  | case2 got s₁ a s₁' h₁ ih =>
    have h := hstep s₁ s₂ hs
    rw [h₁] at h
    obtain ⟨s₂', h₂, hs'⟩ := mapState_eq_ok_iff.mp h.symm
    rw [collectFrom_eq_bind step₂, bind_of_ok h₂]
    exact ih s₂' hs'.symm
  | case3 got s₁ e s₁' h₁ =>
    have h := hstep s₁ s₂ hs
    rw [h₁] at h
    obtain ⟨s₂', h₂, hs'⟩ := mapState_eq_error_iff.mp h.symm
    rw [collectFrom_eq_bind, bind_of_error h₂]
    exact congrArg (EStateM.Result.error e) hs'.symm

lemma alike_limitReads (config : Config) :
    Alike (limitReads config : EStateM Error σ₁ Unit) (limitReads config : EStateM Error σ₂ Unit) :=
  .liftIo (.of_view (setReadTimeout_view _) (setReadTimeout_view _))

lemma alike_writeRequest (request : Bytes) :
    Alike (writeRequest request : EStateM Error σ₁ Unit)
      (writeRequest request : EStateM Error σ₂ Unit) :=
  (Agree.liftIo (.of_view (writeAll_view request) (writeAll_view request))).bind fun _ =>
    .liftIo (.of_view flush_view flush_view)

/-! ### Answers on a stream -/

section Wire

open Wire

lemma alike_readUInt16BE :
    Alike (readUInt16BE : Decoder σ₁ UInt16) (readUInt16BE : Decoder σ₂ UInt16) :=
  (alike_fill 2).map _

lemma alike_readUInt32LE :
    Alike (readUInt32LE : Decoder σ₁ UInt32) (readUInt32LE : Decoder σ₂ UInt32) :=
  (alike_fill 4).map _

lemma alike_readBase128From (top : UInt8) (digits place sum : Nat) :
    Alike (readBase128From top digits place sum : Decoder σ₁ Nat)
      (readBase128From top digits place sum : Decoder σ₂ Nat) := by
  induction digits generalizing place sum with
  | zero => exact .throw _
  | succ digits ih =>
    refine alike_readByte.bind fun b => ?_
    dsimp only
    split
    · exact .throw _
    · split
      · exact .pure _
      · exact ih _ _

lemma alike_readUvarint :
    Alike (readUvarint : Decoder σ₁ UInt64) (readUvarint : Decoder σ₂ UInt64) :=
  (alike_readBase128From 1 10 1 0).map _

end Wire

namespace Status

lemma alike_readFrame : Alike (readFrame : Decoder σ₁ Frame) (readFrame : Decoder σ₂ Frame) := by
  refine alike_readUvarint.bind fun length => ?_
  dsimp only
  split
  · exact .throw _
  · exact (alike_readBytes _).bind fun run => (alike_within run _).map _

lemma alike_readFrameOf (packetId : UInt64) :
    Alike (readFrameOf packetId : Decoder σ₁ Frame) (readFrameOf packetId : Decoder σ₂ Frame) := by
  refine alike_readFrame.bind fun frame => ?_
  dsimp only
  split
  · exact .throw _
  · exact .pure _

lemma alike_readResponse (parse : Parser) :
    Alike (readResponse parse : Decoder σ₁ Response) (readResponse parse : Decoder σ₂ Response) :=
  (alike_readFrameOf _).bind fun frame => (alike_within frame.body _).map _

lemma alike_readPong : Alike (readPong : Decoder σ₁ Pong) (readPong : Decoder σ₂ Pong) :=
  (alike_readFrameOf _).bind fun frame => (alike_within frame.body _).map _

end Status

lemma Legacy.alike_readResponse :
    Alike (readResponse : Decoder σ₁ Response) (readResponse : Decoder σ₂ Response) := by
  refine alike_readByte.bind fun packetId => ?_
  dsimp only
  split
  · exact .throw _
  · refine alike_readUInt16BE.bind fun length => ?_
    refine (alike_readBytes _).bind fun run => ?_
    split
    · exact .pure _
    · exact .throw _

namespace Rcon

lemma alike_readPacket :
    Alike (readPacket : Decoder σ₁ Packet) (readPacket : Decoder σ₂ Packet) := by
  refine Agree.bind (alike_readUInt32LE.bind fun length => ?_) fun length =>
    (alike_readBytes _).bind fun run => alike_within run _
  split
  · exact .throw _
  · split
    · exact .throw _
    · exact .pure _

namespace Session

lemma alike_receive (config : Config) :
    Alike (receive config : Decoder σ₁ Packet) (receive config : Decoder σ₂ Packet) :=
  (alike_limitReads config).bind fun _ => alike_readPacket

lemma alike_receiveLoginReply (config : Config) :
    Alike (receiveLoginReply config : Decoder σ₁ Packet)
      (receiveLoginReply config : Decoder σ₂ Packet) := by
  refine (alike_receive config).bind fun reply => ?_
  split
  · exact alike_receive config
  · exact .pure _

lemma alike_receiveFragment (config : Config) (requestId : Int32) :
    Alike (receiveFragment config requestId : Decoder σ₁ (Option Bytes))
      (receiveFragment config requestId : Decoder σ₂ (Option Bytes)) :=
  (alike_receive config).map _

lemma alike_receiveResponse (config : Config) (requestId : Int32) :
    Alike (receiveResponse config requestId : Decoder σ₁ (Packet × Bytes))
      (receiveResponse config requestId : Decoder σ₂ (Packet × Bytes)) := by
  refine (alike_receive config).bind fun first => ?_
  split
  · exact .pure _
  · refine (alike_writeRequest _).bind fun _ => ?_
    exact (alike_collect _ _ (alike_receiveFragment config requestId)).map _

end Session

end Rcon

end GameProbe
