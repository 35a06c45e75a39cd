import GameProbe.Proofs.Transport.Peer
import GameProbe.Transport.Scripted

/-!
# Traffic

The plainest peer: it has laid down beforehand what it will say and where reading and writing will
fail.
-/

namespace GameProbe

/-- What passes over a stream. -/
structure Traffic where
  /-- The bytes that come, and the failures of reading between them. -/
  incoming : List (Except Fault UInt8)
  /-- The failures of writing: each comes once, when so many bytes have been written. Without a
  cause, the byte is not taken. -/
  writeFaults : List (Nat × Option Fault) := []
  flushFault : Option IoError := none
  timeoutFault : Option IoError := none
  closeFault : Option IoError := none
  written : Bytes := []

namespace Traffic

/-- The bytes among what is still to come. -/
def incomingBytes (t : Traffic) : Bytes := t.incoming.filterMap (·.toOption)

/-- The next byte. -/
def receive : EStateM Fault Traffic (Option UInt8) := fun t =>
  match t.incoming with
  | [] => .ok none t
  | .ok b :: incoming => .ok (some b) { t with incoming }
  | .error e :: incoming => .error e { t with incoming }

/-- Take a byte. -/
def take (b : UInt8) : EStateM Fault Traffic Bool := fun t =>
  .ok true { t with written := t.written ++ [b] }

/-- A byte is offered. -/
def send (b : UInt8) : EStateM Fault Traffic Bool := fun t =>
  match t.writeFaults with
  | [] => take b t
  | (offset, cause) :: writeFaults =>
    if t.written.length < offset then take b t
    else
      match cause with
      | some e => .error e { t with writeFaults }
      | none => .ok false { t with writeFaults }

/-! ### What a call can do -/

lemma receive_cases (t : Traffic) :
    (t.incoming = [] ∧ t.receive = .ok none t) ∨
    (∃ b incoming, t.incoming = .ok b :: incoming ∧ t.receive = .ok (some b) { t with incoming }) ∨
    (∃ e incoming, t.incoming = .error e :: incoming ∧
      t.receive = .error e { t with incoming }) := by
  rcases hincoming : t.incoming with _ | ⟨e | b, incoming⟩
  · refine .inl ⟨rfl, ?_⟩
    simp only [receive, hincoming]
  · refine .inr (.inr ⟨e, incoming, rfl, ?_⟩)
    simp only [receive, hincoming]
  · refine .inr (.inl ⟨b, incoming, rfl, ?_⟩)
    simp only [receive, hincoming]

lemma send_cases (b : UInt8) (t : Traffic) :
    t.send b = .ok true { t with written := t.written ++ [b] } ∨
    (∃ e writeFaults, t.send b = .error e { t with writeFaults }) ∨
    (∃ writeFaults, t.send b = .ok false { t with writeFaults }) := by
  rcases hfaults : t.writeFaults with _ | ⟨⟨offset, cause⟩, writeFaults⟩
  · refine .inl ?_
    simp only [send, take, hfaults]
  · by_cases hoffset : t.written.length < offset
    · refine .inl ?_
      simp only [send, take, hfaults, hoffset, if_true]
    · cases cause with
      | some e =>
        refine .inr (.inl ⟨e, writeFaults, ?_⟩)
        simp only [send, hfaults, hoffset, if_false]
      | none =>
        refine .inr (.inr ⟨writeFaults, ?_⟩)
        simp only [send, hfaults, hoffset, if_false]

lemma incomingBytes_received {t : Traffic} {b : UInt8} {incoming : List (Except Fault UInt8)}
    (h : t.incoming = .ok b :: incoming) :
    t.incomingBytes.length = { t with incoming }.incomingBytes.length + 1 := by
  simp [incomingBytes, h, Except.toOption]

lemma incomingBytes_failed {t : Traffic} {e : Fault} {incoming : List (Except Fault UInt8)}
    (h : t.incoming = .error e :: incoming) :
    { t with incoming }.incomingBytes = t.incomingBytes := by
  simp [incomingBytes, h, Except.toOption]

end Traffic

open Traffic in
instance : Peer Traffic where
  receive := receive
  send := send
  flush t := failIf t.flushFault t
  setReadTimeout _ t := failIf t.timeoutFault t
  close t := failIf t.closeFault t
  written := written
  unread t := t.incomingBytes.length
  written_of_send {b t t'} h := by
    rcases send_cases b t with h' | ⟨e, faults, h'⟩ | ⟨faults, h'⟩ <;> rw [h'] at h <;> cases h
    rfl
  unread_of_receive {b t t'} h := by
    rcases receive_cases t with ⟨-, h'⟩ | ⟨b', incoming, hi, h'⟩ | ⟨e, incoming, -, h'⟩ <;>
      rw [h'] at h <;> cases h
    exact incomingBytes_received hi
  unread_of_end {t t'} h := by
    rcases receive_cases t with ⟨-, h'⟩ | ⟨b, incoming, -, h'⟩ | ⟨e, incoming, -, h'⟩ <;>
      rw [h'] at h <;> cases h
    exact Nat.le_refl _
  unread_of_fault {e t t'} h := by
    rcases receive_cases t with ⟨-, h'⟩ | ⟨b, incoming, -, h'⟩ | ⟨e', incoming, hi, h'⟩ <;>
      rw [h'] at h <;> cases h
    exact Nat.le_of_eq (congrArg List.length (incomingBytes_failed hi))
  unread_of_setReadTimeout h := by
    obtain rfl := eq_of_failIf h
    exact Nat.le_refl _

end GameProbe
