import GameProbe.Proofs.Transport.Peer
import GameProbe.Transport.Scripted

/-!
# Cut transports

A transport to any peer that cuts what passes in both directions as it is told, and interrupts calls
where it is told. Every way to cut the bytes of a conversation is one of these.
-/

namespace GameProbe

open Peer EStateM.Result

/-- A peer behind a connection. For the calls to come it is laid down how many bytes they move at
most, less one; `none` stands for a call that is interrupted. Calls beyond that are not cut. -/
structure Cut (π : Type) where
  peer : π
  reads : List (Option Nat) := []
  writes : List (Option Nat) := []

namespace Cut

variable {π : Type} [Peer π]

/-- The failure of a call that was interrupted. -/
def interruption : IoError := { text := "interrupted", interrupted := true }

/-! ### Reading -/

/-- The bytes that the peer gives without a break, at most `limit`. -/
def gather : Nat → π → Bytes × π
  | 0, p => ([], p)
  | limit + 1, p =>
    match receive p with
    | .ok (some b) p' =>
      let (bs, p'') := gather limit p'
      (b :: bs, p'')
    | _ => ([], p)

/-- A read of at most `limit` bytes. -/
def readPiece : Nat → EStateM IoError π Bytes
  | 0 => pure []
  | limit + 1 => fun p =>
    match receive p with
    | .ok (some b) p' => .ok (b :: (gather limit p').1) (gather limit p').2
    | .ok none p' => .ok [] p'
    | .error e p' => .error e p'

/-- The next read. -/
def read (n : Nat) : EStateM IoError (Cut π) Bytes := fun s =>
  match s.reads with
  | [] => (readPiece n s.peer).mapState fun peer => { s with peer }
  | none :: reads => .error interruption { s with reads }
  | some limit :: reads =>
    (readPiece (min n (limit + 1)) s.peer).mapState fun peer => { s with peer, reads }

lemma gives_gather (limit : Nat) (p : π) : Gives (gather limit p).1 p (gather limit p).2 := by
  induction limit generalizing p with
  | zero => rfl
  | succ limit ih =>
    rw [gather]
    split
    · rename_i b p' h
      exact ⟨p', h, ih p'⟩
    · rfl

lemma length_gather_le (limit : Nat) (p : π) : (gather limit p).1.length ≤ limit := by
  induction limit generalizing p with
  | zero => exact Nat.le_refl 0
  | succ limit ih =>
    rw [gather]
    split
    · rename_i b p' h
      exact Nat.succ_le_succ (ih p')
    · exact Nat.zero_le _

lemma unread_of_gives {bytes : Bytes} {p p' : π} (h : Gives bytes p p') :
    unread p = unread p' + bytes.length := by
  induction bytes generalizing p with
  | nil =>
    cases h
    rfl
  | cons b bs ih =>
    obtain ⟨p₁, hb, hbs⟩ := h
    rw [unread_of_receive hb, ih hbs, List.length_cons, Nat.add_assoc]

/-- What a read brings is what the peer gives. -/
lemma gives_of_readPiece {limit : Nat} {p p' : π} {b : UInt8} {bs : Bytes}
    (h : readPiece limit p = .ok (b :: bs) p') : Gives (b :: bs) p p' := by
  cases limit with
  | zero => cases h
  | succ limit =>
    simp only [readPiece] at h
    split at h <;> cases h
    rename_i p₁ h₁
    exact ⟨p₁, h₁, gives_gather limit p₁⟩

lemma length_le_of_readPiece {limit : Nat} {p p' : π} {bytes : Bytes}
    (h : readPiece limit p = .ok bytes p') : bytes.length ≤ limit := by
  cases limit with
  | zero =>
    cases h
    exact Nat.le_refl 0
  | succ limit =>
    simp only [readPiece] at h
    split at h <;> cases h
    · exact Nat.succ_le_succ (length_gather_le limit _)
    · exact Nat.zero_le _

lemma end_of_readPiece {limit : Nat} {p p' : π} (hlimit : 0 < limit)
    (h : readPiece limit p = .ok [] p') : receive p = .ok none p' := by
  obtain ⟨limit, rfl⟩ := Nat.exists_eq_add_one_of_ne_zero (Nat.ne_of_gt hlimit)
  simp only [readPiece] at h
  split at h <;> cases h
  assumption

lemma fault_of_readPiece {limit : Nat} {p p' : π} {e : IoError}
    (h : readPiece limit p = .error e p') :
    ∃ hi : e.interrupted = false, receive p = .error ⟨e, hi⟩ p' := by
  cases limit with
  | zero => cases h
  | succ limit =>
    simp only [readPiece] at h
    split at h <;> cases h
    rename_i e h₁
    exact ⟨e.property, h₁⟩

lemma unread_of_readPiece {limit : Nat} {p p' : π} {bytes : Bytes}
    (h : readPiece limit p = .ok bytes p') : unread p' + bytes.length ≤ unread p := by
  cases bytes with
  | nil =>
    cases limit with
    | zero =>
      cases h
      exact Nat.le_refl _
    | succ limit => exact unread_of_end (end_of_readPiece (Nat.succ_pos limit) h)
  | cons b bs => exact Nat.le_of_eq (unread_of_gives (gives_of_readPiece h)).symm

/-! ### Writing -/

/-- How many bytes the peer takes without a break. -/
def offer : Bytes → π → Nat × π
  | [], p => (0, p)
  | b :: bs, p =>
    match send b p with
    | .ok true p' =>
      let (taken, p'') := offer bs p'
      (taken + 1, p'')
    | _ => (0, p)

/-- A write of all the bytes. -/
def writePiece : Bytes → EStateM IoError π Nat
  | [] => pure 0
  | b :: bs => fun p =>
    match send b p with
    | .ok true p' => .ok ((offer bs p').1 + 1) (offer bs p').2
    | .ok false p' => .ok 0 p'
    | .error e p' => .error e p'

/-- The next write. -/
def write (bytes : Bytes) : EStateM IoError (Cut π) Nat := fun s =>
  match s.writes with
  | [] => (writePiece bytes s.peer).mapState fun peer => { s with peer }
  | none :: writes => .error interruption { s with writes }
  | some limit :: writes =>
    (writePiece (bytes.take (limit + 1)) s.peer).mapState fun peer => { s with peer, writes }

lemma takes_offer (bytes : Bytes) (p : π) :
    (offer bytes p).1 ≤ bytes.length ∧
      Takes (bytes.take (offer bytes p).1) p (offer bytes p).2 := by
  induction bytes generalizing p with
  | nil => exact ⟨Nat.le_refl 0, rfl⟩
  | cons b bs ih =>
    rw [offer]
    split
    · rename_i p' h
      exact ⟨Nat.succ_le_succ (ih p').1, p', h, (ih p').2⟩
    · exact ⟨Nat.zero_le _, rfl⟩

lemma takes_of_writePiece {bytes : Bytes} {p p' : π} {taken : Nat}
    (h : writePiece bytes p = .ok (taken + 1) p') :
    taken + 1 ≤ bytes.length ∧ Takes (bytes.take (taken + 1)) p p' := by
  cases bytes with
  | nil => cases h
  | cons b bs =>
    simp only [writePiece] at h
    split at h <;> cases h
    rename_i p₁ h₁
    obtain ⟨hle, htakes⟩ := takes_offer bs p₁
    exact ⟨Nat.succ_le_succ hle, p₁, h₁, htakes⟩

lemma refusal_of_writePiece {b : UInt8} {bs : Bytes} {p p' : π}
    (h : writePiece (b :: bs) p = .ok 0 p') : send b p = .ok false p' := by
  simp only [writePiece] at h
  split at h <;> cases h
  assumption

lemma fault_of_writePiece {b : UInt8} {bs : Bytes} {p p' : π} {e : IoError}
    (h : writePiece (b :: bs) p = .error e p') :
    ∃ hi : e.interrupted = false, send b p = .error ⟨e, hi⟩ p' := by
  simp only [writePiece] at h
  split at h <;> cases h
  rename_i e h₁
  exact ⟨e.property, h₁⟩

/-! ### What a call can do -/

variable {n : Nat} {s s' : Cut π} {bytes : Bytes} {e : IoError}

lemma read_ok (h : read n s = .ok bytes s') :
    ∃ limit, readPiece (min n (limit + 1)) s.peer = .ok bytes s'.peer ∧
      s'.reads.length ≤ s.reads.length := by
  unfold read at h
  split at h
  · obtain ⟨p, hp, rfl⟩ := mapState_eq_ok_iff.mp h
    exact ⟨n, by rwa [Nat.min_eq_left (Nat.le_succ n)], Nat.le_refl _⟩
  · cases h
  · rename_i limit reads hr
    obtain ⟨p, hp, rfl⟩ := mapState_eq_ok_iff.mp h
    exact ⟨limit, hp, by simp [hr]⟩

lemma read_error (h : read n s = .error e s') :
    (e = interruption ∧ s'.peer = s.peer ∧ s'.reads.length < s.reads.length) ∨
    (∃ limit, readPiece (min n (limit + 1)) s.peer = .error e s'.peer ∧
      s'.reads.length ≤ s.reads.length) := by
  unfold read at h
  split at h
  · obtain ⟨p, hp, rfl⟩ := mapState_eq_error_iff.mp h
    exact .inr ⟨n, by rwa [Nat.min_eq_left (Nat.le_succ n)], Nat.le_refl _⟩
  · rename_i reads hr
    cases h
    exact .inl ⟨rfl, rfl, by simp [hr]⟩
  · rename_i limit reads hr
    obtain ⟨p, hp, rfl⟩ := mapState_eq_error_iff.mp h
    exact .inr ⟨limit, hp, by simp [hr]⟩

lemma write_ok {taken : Nat} (h : write bytes s = .ok taken s') :
    ∃ limit, writePiece (bytes.take (limit + 1)) s.peer = .ok taken s'.peer := by
  unfold write at h
  split at h
  · obtain ⟨p, hp, rfl⟩ := mapState_eq_ok_iff.mp h
    exact ⟨bytes.length, by rwa [List.take_of_length_le (Nat.le_succ _)]⟩
  · cases h
  · rename_i limit writes hw
    obtain ⟨p, hp, rfl⟩ := mapState_eq_ok_iff.mp h
    exact ⟨limit, hp⟩

lemma write_error (h : write bytes s = .error e s') :
    (e = interruption ∧ s'.peer = s.peer ∧ s'.writes.length < s.writes.length) ∨
    (∃ limit, writePiece (bytes.take (limit + 1)) s.peer = .error e s'.peer) := by
  unfold write at h
  split at h
  · obtain ⟨p, hp, rfl⟩ := mapState_eq_error_iff.mp h
    exact .inr ⟨bytes.length, by rwa [List.take_of_length_le (Nat.le_succ _)]⟩
  · rename_i writes hw
    cases h
    exact .inl ⟨rfl, rfl, by simp [hw]⟩
  · rename_i limit writes hw
    obtain ⟨p, hp, rfl⟩ := mapState_eq_error_iff.mp h
    exact .inr ⟨limit, hp⟩

end Cut

/-! ### The transport -/

instance {π : Type} [Peer π] : StreamTransport (Cut π) where
  read := Cut.read
  write := Cut.write
  flush s := (Peer.flush s.peer).mapState fun peer => { s with peer }
  setReadTimeout timeout s :=
    (Transport.setReadTimeout timeout s.peer).mapState fun peer => { s with peer }
  close s := (Transport.close s.peer).mapState fun peer => { s with peer }
  pending s := unread s.peer + s.reads.length
  interruptions s := s.writes.length
  length_le_of_read h := by
    obtain ⟨limit, hp, -⟩ := Cut.read_ok h
    exact Nat.le_trans (Cut.length_le_of_readPiece hp) (Nat.min_le_left ..)
  pending_of_read h := by
    obtain ⟨limit, hp, hr⟩ := Cut.read_ok h
    have := Cut.unread_of_readPiece hp
    omega
  pending_of_failure h := by
    rcases Cut.read_error h with ⟨rfl, hp, hr⟩ | ⟨limit, hp, hr⟩
    · rw [hp, Cut.interruption, Bool.toNat_true]
      omega
    · obtain ⟨hi, hp⟩ := Cut.fault_of_readPiece hp
      have := unread_of_fault hp
      rw [hi, Bool.toNat_false]
      omega
  interruptions_of_failure := by
    intro bytes s s' e h hi
    rcases Cut.write_error h with ⟨-, -, hw⟩ | ⟨limit, hp⟩
    · exact hw
    · cases bytes with
      | nil => cases hp
      | cons b bs =>
        obtain ⟨hi', -⟩ := Cut.fault_of_writePiece hp
        rw [hi] at hi'
        cases hi'
  pending_of_setReadTimeout h := by
    obtain ⟨p, hp, rfl⟩ := mapState_eq_ok_iff.mp h
    exact Nat.add_le_add_right (unread_of_setReadTimeout hp) _

instance {π : Type} [Peer π] : Carrier (Cut π) π where
  view := Cut.peer
  gives_of_read h := by
    obtain ⟨limit, hp, -⟩ := Cut.read_ok (π := π) h
    exact Cut.gives_of_readPiece hp
  end_of_read hn h := by
    obtain ⟨limit, hp, -⟩ := Cut.read_ok (π := π) h
    exact Cut.end_of_readPiece (Nat.lt_min.mpr ⟨hn, Nat.succ_pos _⟩) hp
  fault_of_read hi hn h := by
    rcases Cut.read_error (π := π) h with ⟨rfl, -, -⟩ | ⟨limit, hp, -⟩
    · cases hi
    · exact (Cut.fault_of_readPiece hp).2
  view_of_read_interrupted hi h := by
    rcases Cut.read_error (π := π) h with ⟨-, hp, -⟩ | ⟨limit, hp, -⟩
    · exact hp
    · obtain ⟨hi', -⟩ := Cut.fault_of_readPiece hp
      rw [hi] at hi'
      cases hi'
  takes_of_write h := by
    obtain ⟨limit, hp⟩ := Cut.write_ok (π := π) h
    obtain ⟨hle, htakes⟩ := Cut.takes_of_writePiece hp
    rw [List.length_take] at hle
    rwa [List.take_take, Nat.min_eq_left (Nat.le_trans hle (Nat.min_le_left ..))] at htakes
  refusal_of_write h := by
    obtain ⟨limit, hp⟩ := Cut.write_ok (π := π) h
    exact Cut.refusal_of_writePiece hp
  fault_of_write hi h := by
    rcases Cut.write_error (π := π) h with ⟨rfl, -, -⟩ | ⟨limit, hp⟩
    · cases hi
    · exact (Cut.fault_of_writePiece hp).2
  view_of_write_interrupted hi h := by
    rcases Cut.write_error (π := π) h with ⟨-, hp, -⟩ | ⟨limit, hp⟩
    · exact hp
    · obtain ⟨hi', -⟩ := Cut.fault_of_writePiece hp
      rw [hi] at hi'
      cases hi'
  flush_view s := (mapState_mapState _).trans (mapState_id _)
  setReadTimeout_view timeout s := (mapState_mapState _).trans (mapState_id _)
  close_view s := (mapState_mapState _).trans (mapState_id _)

end GameProbe
