import GameProbe.Legacy.Kick
import GameProbe.Proofs.Wire.Pieces
import GameProbe.Rcon.Session
import GameProbe.Status.Frame
import Mathlib.Order.Defs.Unbundled

/-!
# Moves

How far an operation can take a state. If every call that is made to a transport takes it to a
related one, and the relation is reflexive and transitive, then so does everything that is made of
such calls, whether it comes to its end or not.
-/

namespace GameProbe

open EStateM.Result

/-- Whatever comes of the operation, it takes every state to a related one. -/
def Moves {ε σ α : Type} (R : σ → σ → Prop) (m : EStateM ε σ α) : Prop := ∀ s, R s (m s).state

/-- What a reading operation calls takes a transport to a related one. -/
structure Listens {σ : Type} [StreamTransport σ] (R : σ → σ → Prop) : Prop where
  read : ∀ n, Moves R (ByteSource.read n : EStateM IoError σ Bytes)
  setReadTimeout : ∀ timeout, Moves R (Transport.setReadTimeout timeout : EStateM IoError σ Unit)

/-- What any operation but a close calls takes a transport to a related one. -/
structure Talks {σ : Type} [StreamTransport σ] (R : σ → σ → Prop) : Prop extends Listens R where
  write : ∀ bytes, Moves R (StreamTransport.write bytes : EStateM IoError σ Nat)
  flush : Moves R (StreamTransport.flush : EStateM IoError σ Unit)

@[simp] lemma state_liftIo {σ α : Type} (m : EStateM IoError σ α) (s : σ) :
    (liftIo m s).state = (m s).state := by
  unfold liftIo
  split <;> rename_i h <;> rw [h] <;> rfl

namespace Moves

variable {ε σ α β : Type} {R : σ → σ → Prop}

lemma of_ok {m : EStateM ε σ α} {s s' : σ} {a : α} (hm : Moves R m) (h : m s = .ok a s') :
    R s s' := by
  have := hm s
  rwa [h] at this

lemma of_error {m : EStateM ε σ α} {s s' : σ} {e : ε} (hm : Moves R m) (h : m s = .error e s') :
    R s s' := by
  have := hm s
  rwa [h] at this

lemma liftIo {m : EStateM IoError σ α} (hm : Moves R m) : Moves R (liftIo m) := by
  intro s
  rw [state_liftIo]
  exact hm s

lemma get_bind {k : σ → EStateM ε σ α} (hk : ∀ s, Moves R (k s)) : Moves R (get >>= k) :=
  fun s => hk s s

/-! ### Combinations -/

variable [IsPreorder σ R]

lemma pure (a : α) : Moves R (pure a : EStateM ε σ α) := fun s => refl s

lemma throw (e : ε) : Moves R (throw e : EStateM ε σ α) := fun s => refl s

lemma bind {m : EStateM ε σ α} {f : α → EStateM ε σ β} (hm : Moves R m)
    (hf : ∀ a, Moves R (f a)) : Moves R (m >>= f) := by
  intro s
  cases h : m s with
  | ok a s' =>
    rw [bind_of_ok h]
    exact trans_of _ (hm.of_ok h) (hf a s')
  | error e s' =>
    rw [bind_of_error h]
    exact hm.of_error h

lemma map {m : EStateM ε σ α} (hm : Moves R m) (g : α → β) :
    Moves R (m >>= fun a => Pure.pure (g a)) := hm.bind fun a => .pure (g a)

lemma within (run : Bytes) (d : Decoder Bytes α) : Moves R (d.within run : EStateM Error σ α) := by
  intro s
  rw [Decoder.state_within]
  exact refl s

/-! ### Reading and writing -/

variable [StreamTransport σ]

lemma readInPieces (h : Listens R) (sizes : Nat → Nat) (n : Nat) :
    Moves R (readInPieces sizes n : Decoder σ Bytes) := by
  suffices ∀ total sizes missing got (s : σ),
      R s (readInPiecesFrom total sizes missing got s).state from this n sizes n []
  intro total sizes missing got s
  fun_induction readInPiecesFrom total sizes missing got s with
  | case1 => exact refl _
  | case2 sizes missing got s hm s₁ h₁ => exact (h.read _).of_ok h₁
  | case3 sizes missing got s hm b bs s₁ h₁ ih => exact trans_of _ ((h.read _).of_ok h₁) ih
  | case4 sizes missing got s hm e s₁ h₁ hi ih => exact trans_of _ ((h.read _).of_error h₁) ih
  | case5 sizes missing got s hm e s₁ h₁ hi => exact (h.read _).of_error h₁

lemma fill (h : Listens R) (n : Nat) : Moves R (fill n : Decoder σ Bytes) := by
  rw [fill_eq_readInPieces]
  exact readInPieces h _ n

lemma readBytes (h : Listens R) (n : Nat) : Moves R (readBytes n : Decoder σ Bytes) := by
  rw [readBytes_eq_readInPieces]
  exact readInPieces h _ n

lemma readByte (h : Listens R) : Moves R (readByte : Decoder σ UInt8) := (fill h 1).map _

lemma collect {step : Decoder σ (Option α)} (consumes : step.Consumes 1) (hstep : Moves R step) :
    Moves R (collect step consumes) := by
  suffices ∀ got s, R s (collectFrom step consumes got s).state from this []
  intro got s
  fun_induction collectFrom step consumes got s with
  | case1 got s s₁ h₁ => exact hstep.of_ok h₁
  | case2 got s a s₁ h₁ ih => exact trans_of _ (hstep.of_ok h₁) ih
  | case3 got s e s₁ h₁ => exact hstep.of_error h₁

omit [IsPreorder σ R] in
lemma limitReads (h : Listens R) (config : Config) :
    Moves R (limitReads config : EStateM Error σ Unit) := (h.setReadTimeout _).liftIo

/-- A request is seen off without anything being read. -/
lemma writeRequest_of_write
    (hwrite : ∀ bytes, Moves R (StreamTransport.write bytes : EStateM IoError σ Nat))
    (hflush : Moves R (StreamTransport.flush : EStateM IoError σ Unit)) (request : Bytes) :
    Moves R (writeRequest request : EStateM Error σ Unit) := by
  have hall (bytes : Bytes) : Moves R (writeAll bytes : EStateM IoError σ Unit) := by
    intro s
    fun_induction writeAll bytes s with
    | case1 => exact refl _
    | case2 s b bs s₁ h₁ => exact (hwrite _).of_ok h₁
    | case3 s b bs taken s₁ h₁ ih => exact trans_of _ ((hwrite _).of_ok h₁) ih
    | case4 s b bs e s₁ h₁ hi ih => exact trans_of _ ((hwrite _).of_error h₁) ih
    | case5 s b bs e s₁ h₁ hi => exact (hwrite _).of_error h₁
  exact (hall request).liftIo.bind fun _ => hflush.liftIo

lemma writeRequest (h : Talks R) (request : Bytes) :
    Moves R (writeRequest request : EStateM Error σ Unit) :=
  writeRequest_of_write h.write h.flush request

end Moves

/-! ### Answers on a stream -/

variable {σ : Type} [StreamTransport σ] {R : σ → σ → Prop} [IsPreorder σ R] (h : Listens R)

include h

lemma moves_readUvarint : Moves R (Wire.readUvarint : Decoder σ UInt64) := by
  have hdigits (top : UInt8) (digits place sum : Nat) :
      Moves R (Wire.readBase128From top digits place sum : Decoder σ Nat) := by
    induction digits generalizing place sum with
    | zero => exact .throw _
    | succ digits ih =>
      refine (Moves.readByte h).bind fun b => ?_
      dsimp only
      split
      · exact .throw _
      · split
        · exact .pure _
        · exact ih _ _
  exact (hdigits 1 10 1 0).map _

namespace Status

lemma moves_readFrameOf (packetId : UInt64) : Moves R (readFrameOf packetId : Decoder σ Frame) := by
  refine Moves.bind ((moves_readUvarint h).bind fun length => ?_) fun frame => ?_
  · dsimp only
    split
    · exact .throw _
    · exact (Moves.readBytes h _).bind fun run => (Moves.within run _).map _
  · dsimp only
    split
    · exact .throw _
    · exact .pure _

lemma moves_readResponse (parse : Parser) : Moves R (readResponse parse : Decoder σ Response) :=
  (moves_readFrameOf h _).bind fun frame => (Moves.within frame.body _).map _

lemma moves_readPong : Moves R (readPong : Decoder σ Pong) :=
  (moves_readFrameOf h _).bind fun frame => (Moves.within frame.body _).map _

end Status

lemma Legacy.moves_readResponse : Moves R (readResponse : Decoder σ Response) := by
  refine (Moves.readByte h).bind fun packetId => ?_
  dsimp only
  split
  · exact .throw _
  · refine ((Moves.fill h 2).map _).bind fun length => ?_
    refine (Moves.readBytes h _).bind fun run => ?_
    split
    · exact .pure _
    · exact .throw _

namespace Rcon

lemma moves_readPacket : Moves R (readPacket : Decoder σ Packet) := by
  refine Moves.bind (((Moves.fill h 4).map _).bind fun length => ?_) fun length =>
    (Moves.readBytes h _).bind fun run => .within run _
  split
  · exact .throw _
  · split
    · exact .throw _
    · exact .pure _

namespace Session

lemma moves_receive (config : Config) : Moves R (receive config : Decoder σ Packet) :=
  (Moves.limitReads h config).bind fun _ => moves_readPacket h

lemma moves_receiveLoginReply (config : Config) :
    Moves R (receiveLoginReply config : Decoder σ Packet) := by
  refine (moves_receive h config).bind fun reply => ?_
  split
  · exact moves_receive h config
  · exact .pure _

lemma moves_collectFragments (config : Config) (requestId : Int32) :
    Moves R (collect (receiveFragment config requestId) (consumes_receiveFragment config requestId)
      : Decoder σ (List Bytes)) :=
  .collect _ ((moves_receive h config).map _)

end Session

end Rcon

end GameProbe
