import GameProbe.Proofs.Wire.Pieces
import GameProbe.Transport.Basic

/-!
# Peers

The other side of a stream, as a machine that takes and gives one byte at a time. A transport that
carries a peer may cut what passes through it into pieces of any size and may interrupt any call;
reading runs and writing requests comes out as if every byte had passed alone.
-/

namespace GameProbe

/-- A failure that ends a call, other than an interruption. -/
abbrev Fault := { e : IoError // e.interrupted = false }

/-- The failure of a read whose time runs out. -/
def Fault.timedOut : Fault := ⟨{ text := "timed out" }, rfl⟩

/-- The other side of a stream. -/
class Peer (π : Type) extends Transport π where
  /-- Wait for a byte; `none` is the end of the stream. -/
  receive : EStateM Fault π (Option UInt8)
  /-- Offer a byte; the result is whether it was taken. -/
  send : UInt8 → EStateM Fault π Bool
  flush : EStateM IoError π Unit
  /-- What has been written so far. -/
  written : π → Bytes
  /-- How many bytes are still to be read, as things are now. -/
  unread : π → Nat
  written_of_send {b : UInt8} {p p' : π} : send b p = .ok true p' → written p' = written p ++ [b]
  unread_of_receive {b : UInt8} {p p' : π} : receive p = .ok (some b) p' → unread p = unread p' + 1
  unread_of_end {p p' : π} : receive p = .ok none p' → unread p' ≤ unread p
  unread_of_fault {e : Fault} {p p' : π} : receive p = .error e p' → unread p' ≤ unread p
  unread_of_setReadTimeout {timeout : Timeout} {p p' : π} :
    setReadTimeout timeout p = .ok () p' → unread p' ≤ unread p

namespace Peer

variable {π : Type} [Peer π]

/-- The peer gives the bytes one after the other. -/
def Gives : Bytes → π → π → Prop
  | [], p, p' => p' = p
  | b :: bs, p, p' => ∃ p₁, receive p = .ok (some b) p₁ ∧ Gives bs p₁ p'

/-- The peer takes the bytes one after the other. -/
def Takes : Bytes → π → π → Prop
  | [], p, p' => p' = p
  | b :: bs, p, p' => ∃ p₁, send b p = .ok true p₁ ∧ Takes bs p₁ p'

/-- A run of bytes, received one by one: `missing` of `total` have not come yet, `got` is what has,
last first. -/
def receiveFrom (total : Nat) : Nat → Bytes → EStateM Error π Bytes
  | 0, got => pure got.reverse
  | missing + 1, got => fun p =>
    match receive p with
    | .ok (some b) p' => receiveFrom total missing (b :: got) p'
    | .ok none p' => .error (.connectionClosed total got.length) p'
    | .error e p' => .error (.io e) p'

/-- A run of `n` bytes. -/
def receiveRun (n : Nat) : EStateM Error π Bytes := receiveFrom n n []

/-- All the bytes, sent one by one. -/
def sendAll : Bytes → EStateM IoError π Unit
  | [] => pure ()
  | b :: bs => fun p =>
    match send b p with
    | .ok true p' => sendAll bs p'
    | .ok false p' => .error .writeZero p'
    | .error e p' => .error e p'

lemma receiveFrom_of_gives {total missing : Nat} {bytes got : Bytes} {p p' : π}
    (h : Gives bytes p p') (hle : bytes.length ≤ missing) :
    receiveFrom total missing got p =
      receiveFrom total (missing - bytes.length) (bytes.reverseAux got) p' := by
  induction bytes generalizing missing got p with
  | nil =>
    cases h
    rfl
  | cons b bs ih =>
    obtain ⟨p₁, hb, hbs⟩ := h
    obtain ⟨missing, rfl⟩ : ∃ m, missing = m + 1 :=
      Nat.exists_eq_add_one_of_ne_zero (Nat.ne_of_gt (Nat.lt_of_lt_of_le (Nat.succ_pos _) hle))
    rw [receiveFrom]
    simp only [hb]
    rw [ih hbs (Nat.le_of_succ_le_succ hle)]
    simp

lemma gives_append {bytes bytes' : Bytes} {p p' : π} :
    Gives (bytes ++ bytes') p p' ↔ ∃ p₁, Gives bytes p p₁ ∧ Gives bytes' p₁ p' := by
  induction bytes generalizing p with
  | nil => simp [Gives]
  | cons b bs ih =>
    simp only [List.cons_append, Gives, ih]
    constructor
    · rintro ⟨q, hb, p₁, hbs, h'⟩
      exact ⟨p₁, ⟨q, hb, hbs⟩, h'⟩
    · rintro ⟨p₁, ⟨q, hb, hbs⟩, h'⟩
      exact ⟨q, hb, p₁, hbs, h'⟩

lemma receiveRun_of_gives {bytes : Bytes} {p p' : π} (h : Gives bytes p p') :
    receiveRun bytes.length p = .ok bytes p' := by
  rw [receiveRun, receiveFrom_of_gives h (Nat.le_refl _), Nat.sub_self, receiveFrom,
    List.reverseAux_eq]
  simp [pure, EStateM.pure]

/-- A run that breaks off behind `bytes` goes by what comes in the place of the next byte. -/
lemma receiveRun_of_short {n : Nat} {bytes : Bytes} {p p' : π} (h : Gives bytes p p')
    (hlt : bytes.length < n) :
    ∃ missing, receiveRun n p = receiveFrom n (missing + 1) bytes.reverse p' := by
  obtain ⟨missing, hmissing⟩ : ∃ missing, n - bytes.length = missing + 1 :=
    Nat.exists_eq_add_one_of_ne_zero (Nat.sub_ne_zero_of_lt hlt)
  refine ⟨missing, ?_⟩
  rw [receiveRun, receiveFrom_of_gives h (Nat.le_of_lt hlt), hmissing, List.reverseAux_eq,
    List.append_nil]

lemma receiveRun_of_end {n : Nat} {bytes : Bytes} {p p₁ p' : π} (h : Gives bytes p p₁)
    (hlt : bytes.length < n) (hend : receive p₁ = .ok none p') :
    receiveRun n p = .error (.connectionClosed n bytes.length) p' := by
  obtain ⟨missing, hrun⟩ := receiveRun_of_short h hlt
  rw [hrun, receiveFrom]
  simp only [hend, List.length_reverse]

lemma receiveRun_of_fault {n : Nat} {bytes : Bytes} {p p₁ p' : π} {e : Fault} (h : Gives bytes p p₁)
    (hlt : bytes.length < n) (hfault : receive p₁ = .error e p') :
    receiveRun n p = .error (.io e) p' := by
  obtain ⟨missing, hrun⟩ := receiveRun_of_short h hlt
  rw [hrun, receiveFrom]
  simp only [hfault]

lemma sendAll_of_takes {bytes rest : Bytes} {p p' : π} (h : Takes bytes p p') :
    sendAll (bytes ++ rest) p = sendAll rest p' := by
  induction bytes generalizing p with
  | nil =>
    cases h
    rfl
  | cons b bs ih =>
    obtain ⟨p₁, hb, hbs⟩ := h
    rw [List.cons_append, sendAll]
    simp only [hb]
    exact ih hbs

end Peer

/-- A transport over which a client talks to a peer. -/
class Carrier (σ : Type) (π : outParam Type) [StreamTransport σ] [Peer π] where
  /-- How things stand with the peer. -/
  view : σ → π
  gives_of_read {n : Nat} {s s' : σ} {b : UInt8} {bs : Bytes} :
    ByteSource.read n s = .ok (b :: bs) s' → Peer.Gives (b :: bs) (view s) (view s')
  end_of_read {n : Nat} {s s' : σ} : 0 < n → ByteSource.read n s = .ok [] s' →
    Peer.receive (view s) = .ok none (view s')
  fault_of_read {n : Nat} {s s' : σ} {e : IoError} (h : e.interrupted = false) : 0 < n →
    ByteSource.read n s = .error e s' → Peer.receive (view s) = .error ⟨e, h⟩ (view s')
  view_of_read_interrupted {n : Nat} {s s' : σ} {e : IoError} : e.interrupted = true →
    ByteSource.read n s = .error e s' → view s' = view s
  takes_of_write {bytes : Bytes} {s s' : σ} {taken : Nat} :
    StreamTransport.write bytes s = .ok (taken + 1) s' →
    Peer.Takes (bytes.take (taken + 1)) (view s) (view s')
  refusal_of_write {b : UInt8} {bs : Bytes} {s s' : σ} :
    StreamTransport.write (b :: bs) s = .ok 0 s' → Peer.send b (view s) = .ok false (view s')
  fault_of_write {b : UInt8} {bs : Bytes} {s s' : σ} {e : IoError} (h : e.interrupted = false) :
    StreamTransport.write (b :: bs) s = .error e s' →
    Peer.send b (view s) = .error ⟨e, h⟩ (view s')
  view_of_write_interrupted {b : UInt8} {bs : Bytes} {s s' : σ} {e : IoError} :
    e.interrupted = true → StreamTransport.write (b :: bs) s = .error e s' → view s' = view s
  flush_view (s : σ) : (StreamTransport.flush s).mapState view = Peer.flush (view s)
  setReadTimeout_view (timeout : Timeout) (s : σ) :
    (Transport.setReadTimeout timeout s).mapState view = Transport.setReadTimeout timeout (view s)
  close_view (s : σ) : (Transport.close s).mapState view = Transport.close (view s)

namespace Carrier

open Peer EStateM.Result

variable {σ π : Type} [StreamTransport σ] [Peer π] [Carrier σ π]

/-! ### Reading and writing without a seam -/

lemma readInPiecesFrom_view (total : Nat) (sizes : Nat → Nat) (missing : Nat) (got : Bytes)
    (s : σ) :
    (readInPiecesFrom total sizes missing got s).mapState view =
      receiveFrom total missing got (view s) := by
  fun_induction readInPiecesFrom total sizes missing got s with
  | case1 sizes got s => rfl
  | case2 sizes missing got s hm s' h =>
    have hasked : 0 < min missing (sizes 0 + 1) := by omega
    obtain ⟨missing, rfl⟩ := Nat.exists_eq_add_one_of_ne_zero hm
    simp only [receiveFrom, end_of_read hasked h]
    rfl
  | case3 sizes missing got s hm b bs s' h ih =>
    have hlen := Nat.le_trans (ByteSource.length_le_of_read h) (Nat.min_le_left ..)
    rw [ih, receiveFrom_of_gives (gives_of_read h) hlen]
    rfl
  | case4 sizes missing got s hm e s' h hi ih =>
    rw [ih, view_of_read_interrupted hi h]
  | case5 sizes missing got s hm e s' h hi =>
    have hasked : 0 < min missing (sizes 0 + 1) := by omega
    have hi' : e.interrupted = false := by simpa using hi
    obtain ⟨missing, rfl⟩ := Nat.exists_eq_add_one_of_ne_zero hm
    simp only [receiveFrom, fault_of_read hi' hasked h]
    rfl

/-- A run comes out the same in whatever pieces it is asked for. -/
theorem readInPieces_view (sizes : Nat → Nat) (n : Nat) (s : σ) :
    (readInPieces sizes n s).mapState view = receiveRun n (view s) :=
  readInPiecesFrom_view n sizes n [] s

theorem fill_view (n : Nat) (s : σ) : (fill n s).mapState view = receiveRun n (view s) := by
  rw [fill_eq_readInPieces]
  exact readInPieces_view _ n s

theorem readBytes_view (n : Nat) (s : σ) :
    (readBytes n s).mapState view = receiveRun n (view s) := by
  rw [readBytes_eq_readInPieces]
  exact readInPieces_view _ n s

lemma fill_of_gives {bytes : Bytes} {s : σ} {p : π} (h : Gives bytes (view s) p) :
    ∃ s', fill bytes.length s = .ok bytes s' ∧ view s' = p :=
  mapState_eq_ok_iff.mp ((fill_view _ s).trans (receiveRun_of_gives h))

lemma readBytes_of_gives {bytes : Bytes} {s : σ} {p : π} (h : Gives bytes (view s) p) :
    ∃ s', readBytes bytes.length s = .ok bytes s' ∧ view s' = p :=
  mapState_eq_ok_iff.mp ((readBytes_view _ s).trans (receiveRun_of_gives h))

lemma fill_of_fault {n : Nat} {s : σ} {e : Fault} {p : π} (h : receive (view s) = .error e p) :
    ∃ s', fill (n + 1) s = .error (.io e) s' ∧ view s' = p := by
  have hnone : Gives [] (view s) (view s) := rfl
  exact mapState_eq_error_iff.mp
    ((fill_view _ s).trans (receiveRun_of_fault hnone (Nat.succ_pos n) h))

theorem writeAll_view (bytes : Bytes) (s : σ) :
    (writeAll bytes s).mapState view = sendAll bytes (view s) := by
  fun_induction writeAll bytes s with
  | case1 s => rfl
  | case2 s b bs s' h =>
    simp only [sendAll, refusal_of_write h]
    rfl
  | case3 s b bs taken s' h ih =>
    rw [ih, ← sendAll_of_takes (takes_of_write h)]
    simp
  | case4 s b bs e s' h hi ih =>
    rw [ih, view_of_write_interrupted hi h]
  | case5 s b bs e s' h hi =>
    have hi' : e.interrupted = false := by simpa using hi
    simp only [sendAll, fault_of_write hi' h]
    rfl

end Carrier

end GameProbe
