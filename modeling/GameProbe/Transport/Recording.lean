import GameProbe.Transport.Basic

/-!
# Recordings

A transport that knows what has been heard so far and no more. A client that asks for more finds it
exhausted: the call fails, and the recording remembers that. A client that ends with a recording
that is not exhausted ends in the same way whatever would have been heard afterwards, so a live
conversation is held by running the client again each time that something new has been heard.
-/

namespace GameProbe

/-- What was heard of the other side, and what the client did about it. -/
structure Recording where
  /-- What has not been used yet: the pieces of a stream or whole datagrams. An empty piece is the
  end of a stream. -/
  heard : List (Except IoError Bytes) := []
  /-- What the client sent, last first. -/
  sent : List Bytes := []
  /-- Whether the client asked for what has not been heard yet. -/
  exhausted : Bool := false

namespace Recording

/-- Note what the client sends. -/
def note (bytes : Bytes) (s : Recording) : Recording := { s with sent := bytes :: s.sent }

/-- What a call fails with that asks for what has not been heard yet. -/
def silence : IoError := { text := "timed out" }

/-- How many reads that bring something, or fail, are left of a stream. -/
def reads : List (Except IoError Bytes) → Nat
  | [] => 0
  | .ok data :: rest => data.length + reads rest
  | .error _ :: rest => 1 + reads rest

/-- What is left of a stream when `left` is left of its first piece. -/
def remain (left : Bytes) (rest : List (Except IoError Bytes)) : List (Except IoError Bytes) :=
  if left.isEmpty then rest else .ok left :: rest

theorem reads_remain (left : Bytes) (rest : List (Except IoError Bytes)) :
    reads (remain left rest) = left.length + reads rest := by
  cases left <;> simp [remain, reads]

/-- A read of at most `n` bytes. -/
def read (n : Nat) : EStateM IoError Recording Bytes := fun s =>
  match s.heard with
  | [] => .error silence { s with exhausted := true }
  | .error e :: rest => .error e { s with heard := rest }
  | .ok [] :: _ => .ok [] s
  | .ok data :: rest => .ok (data.take n) { s with heard := remain (data.drop n) rest }

/-- A recording with more heard behind what was heard before. -/
def extend (later : List (Except IoError Bytes)) (s : Recording) : Recording :=
  { s with heard := s.heard ++ later }

theorem remain_append (left : Bytes) (rest later : List (Except IoError Bytes)) :
    remain left rest ++ later = remain left (rest ++ later) := by
  cases left <;> rfl

/-- A read that brings something brings the same when more has been heard. -/
theorem read_extend {n : Nat} {s s' : Recording} {bytes : Bytes}
    (later : List (Except IoError Bytes)) (h : read n s = .ok bytes s') :
    read n (s.extend later) = .ok bytes (s'.extend later) := by
  unfold read at h
  split at h <;> cases h <;> rename_i heard
  · simp [read, extend, heard]
  · simp [read, extend, heard, remain_append]

/-- An exchange. The datagram is sent even when nothing answers it. -/
def exchange (request : Bytes) : EStateM IoError Recording Bytes := fun s =>
  let s := s.note request
  match s.heard with
  | [] => .error silence { s with exhausted := true }
  | .error e :: rest => .error e { s with heard := rest }
  | .ok answer :: rest => .ok answer { s with heard := rest }

/-- An exchange that is answered is answered the same when more has been heard. -/
theorem exchange_extend {request answer : Bytes} {s s' : Recording}
    (later : List (Except IoError Bytes)) (h : exchange request s = .ok answer s') :
    exchange request (s.extend later) = .ok answer (s'.extend later) := by
  unfold exchange at h
  dsimp only at h
  split at h <;> cases h
  rename_i heard
  have : s.heard = .ok answer :: _ := heard
  simp [exchange, extend, note, this]

end Recording

instance : StreamTransport Recording where
  read := Recording.read
  write bytes s := .ok bytes.length (s.note bytes)
  flush s := .ok () s
  setReadTimeout _ s := .ok () s
  close s := .ok () s
  pending s := Recording.reads s.heard
  interruptions _ := 0
  length_le_of_read h := by
    unfold Recording.read at h
    split at h <;> cases h
    · simp
    · exact List.length_take_le ..
  pending_of_read h := by
    unfold Recording.read at h
    split at h <;> cases h
    · simp
    · rename_i data rest _ heard
      simp only [heard, Recording.reads_remain, Recording.reads, List.length_drop, List.length_take]
      omega
  pending_of_failure h := by
    unfold Recording.read at h
    split at h <;> cases h
    · simp [Recording.silence]
    · rename_i e _ rest heard
      have := Bool.toNat_le e.interrupted
      simp only [heard, Recording.reads]
      omega
  interruptions_of_failure h _ := by cases h
  pending_of_setReadTimeout h := by
    cases h
    exact Nat.le_refl _

instance : DatagramTransport Recording where
  exchange := Recording.exchange
  setReadTimeout _ s := .ok () s
  close s := .ok () s

end GameProbe
