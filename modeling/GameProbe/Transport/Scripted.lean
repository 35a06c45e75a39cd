import GameProbe.Transport.Script

/-!
# Scripted transports

Transports whose other side follows a script. They say how reads and writes are cut up and where
they fail, and they note everything that the client does.
-/

namespace GameProbe

/-- Something that a client did with its transport. -/
inductive Event
  | wrote (bytes : Bytes)
  | flushed
  | readTimeout (timeout : Timeout)
  | closed
  | exchanged (request : Bytes)

/-- The bytes of a write. -/
def Event.written : Event → Bytes
  | .wrote bytes => bytes
  | _ => []

/-- The bytes of all writes among events, which are given last first. -/
def writtenBytes (events : List Event) : Bytes := events.reverse.flatMap Event.written

/-- A failure of one write, which comes when `offset` bytes have been taken. -/
structure WriteFault where
  offset : Nat
  /-- Without a cause, the write takes no byte. -/
  cause : Option IoError

/-- The outcome of a call that fails if there is a cause. -/
def failIf {σ : Type} (cause : Option IoError) (s : σ) : EStateM.Result IoError σ Unit :=
  match cause with
  | some e => .error e s
  | none => .ok () s

theorem eq_of_failIf {σ : Type} {cause : Option IoError} {s s' : σ}
    (h : failIf cause s = .ok () s') : s' = s := by
  unfold failIf at h
  split at h <;> cases h
  rfl

/-- The smaller of a number and a bound, if there is one. -/
def atMost (bound : Option Nat) (n : Nat) : Nat := (bound.map (min n)).getD n

theorem atMost_le (bound : Option Nat) (n : Nat) : atMost bound n ≤ n := by
  cases bound with
  | none => exact Nat.le_refl n
  | some bound => exact Nat.min_le_left n bound

/-! ### Streams -/

/-- A stream whose other side follows a script. -/
structure ScriptedStream where
  script : Script
  /-- The greatest number of bytes that one read brings. -/
  chunk : Option Nat := none
  /-- The greatest number of bytes that one write takes. -/
  writeChunk : Option Nat := none
  /-- The failure that writing has before it, if any. -/
  writeFault : Option WriteFault := none
  flushFault : Option IoError := none
  timeoutFault : Option IoError := none
  closeFault : Option IoError := none
  /-- What a read fails with when the script waits for the client. -/
  silence : String := "timed out"
  /-- What the client did, last first. -/
  events : List Event := []

namespace ScriptedStream

/-- Note an event. -/
def note (event : Event) (s : ScriptedStream) : ScriptedStream :=
  { s with events := event :: s.events }

/-- What the client has sent. -/
def sent (s : ScriptedStream) : Bytes := writtenBytes s.events

/-- A read of at most `n` bytes. -/
def read (n : Nat) : EStateM IoError ScriptedStream Bytes := fun s =>
  match s.script.next s.silence (fun _ => s.sent) (atMost s.chunk n) with
  | (.ok bytes, script) => .ok bytes { s with script }
  | (.error e, script) => .error e { s with script }

/-- How many of `n` bytes a write takes, unless it fails. -/
def room (s : ScriptedStream) (n : Nat) : Nat :=
  atMost (s.writeFault.map fun fault => fault.offset - s.sent.length) (atMost s.writeChunk n)

/-- Whether the next write fails. -/
def failsNow (s : ScriptedStream) (fault : WriteFault) : Bool := fault.offset ≤ s.sent.length

/-- A write that takes what there is room for. -/
def take (bytes : Bytes) : EStateM IoError ScriptedStream Nat := fun s =>
  .ok (s.room bytes.length) (note (.wrote (bytes.take (s.room bytes.length))) s)

/-- A write that meets a failure, which is over then. -/
def meet (fault : WriteFault) : EStateM IoError ScriptedStream Nat := fun s =>
  match fault.cause with
  | some e => .error e { s with writeFault := none }
  | none => .ok 0 { s with writeFault := none }

/-- A write. -/
def write (bytes : Bytes) : EStateM IoError ScriptedStream Nat := fun s =>
  match s.writeFault with
  | some fault => if s.failsNow fault then meet fault s else take bytes s
  | none => take bytes s

end ScriptedStream

instance : StreamTransport ScriptedStream where
  read := ScriptedStream.read
  write := ScriptedStream.write
  flush s := failIf s.flushFault (s.note .flushed)
  setReadTimeout timeout s := failIf s.timeoutFault (s.note (.readTimeout timeout))
  close s := failIf s.closeFault (s.note .closed)
  pending s := s.script.size
  interruptions s := if s.writeFault.isSome then 1 else 0
  length_le_of_read h := by
    unfold ScriptedStream.read at h
    split at h <;> cases h
    rename_i h
    exact Nat.le_trans (Script.length_le_of_next h) (atMost_le ..)
  pending_of_read h := by
    unfold ScriptedStream.read at h
    split at h <;> cases h
    rename_i h
    exact Script.size_of_next h
  pending_of_failure h := by
    unfold ScriptedStream.read at h
    split at h <;> cases h
    rename_i h
    exact Script.size_of_next_failure h
  interruptions_of_failure h _ := by
    unfold ScriptedStream.write at h
    split at h
    · rename_i fault hf
      split at h
      · unfold ScriptedStream.meet at h
        split at h <;> cases h
        simp [hf]
      · cases h
    · cases h
  pending_of_setReadTimeout h := by
    obtain rfl := eq_of_failIf h
    exact Nat.le_refl _

/-! ### Datagrams -/

/-- A peer that answers each datagram with the next script. -/
structure ScriptedPeer where
  responses : List Script
  /-- The greatest number of bytes that an answer brings; the rest of it is lost. -/
  capacity : Option Nat := none
  timeoutFault : Option IoError := none
  closeFault : Option IoError := none
  /-- What an exchange fails with when no answer is left. -/
  silence : String := "timed out"
  /-- What the client did, last first. -/
  events : List Event := []

namespace ScriptedPeer

/-- Note an event. -/
def note (event : Event) (s : ScriptedPeer) : ScriptedPeer :=
  { s with events := event :: s.events }

/-- An exchange. -/
def exchange (request : Bytes) : EStateM IoError ScriptedPeer Bytes := fun s =>
  let s := s.note (.exchanged request)
  match s.responses with
  | [] => .error { text := s.silence } s
  | script :: responses =>
    match script.contents s.silence request with
    | .ok answer => .ok (answer.take (atMost s.capacity answer.length)) { s with responses }
    | .error e => .error e { s with responses }

end ScriptedPeer

instance : DatagramTransport ScriptedPeer where
  exchange := ScriptedPeer.exchange
  setReadTimeout timeout s := failIf s.timeoutFault (s.note (.readTimeout timeout))
  close s := failIf s.closeFault (s.note .closed)

end GameProbe
