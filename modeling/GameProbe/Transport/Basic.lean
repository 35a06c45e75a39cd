import GameProbe.Config
import GameProbe.Wire.Source

/-!
# Transports

What a client needs of the network: an ordered stream of bytes, or single datagrams that are
answered by single datagrams.
-/

namespace GameProbe

/-- What can be given a time limit for reading and be closed. -/
class Transport (σ : Type) where
  setReadTimeout : Timeout → EStateM IoError σ Unit
  close : EStateM IoError σ Unit

/-- An ordered stream of bytes in both directions. -/
class StreamTransport (σ : Type) extends Transport σ, ByteSource σ where
  /-- Offer bytes; the result is how many of them were taken. -/
  write : Bytes → EStateM IoError σ Nat
  flush : EStateM IoError σ Unit
  /-- A bound on the interruptions that writing will still meet. -/
  interruptions : σ → Nat
  interruptions_of_failure {bytes : Bytes} {s s' : σ} {e : IoError} :
    write bytes s = .error e s' → e.interrupted → interruptions s' < interruptions s
  pending_of_setReadTimeout {timeout : Timeout} {s s' : σ} :
    setReadTimeout timeout s = .ok () s' → pending s' ≤ pending s

/-- Single datagrams. -/
class DatagramTransport (σ : Type) extends Transport σ where
  /-- Send a datagram and wait for the one that answers it. -/
  exchange : Bytes → EStateM IoError σ Bytes

/-- An operation of a transport among those that fail for other reasons too. -/
def liftIo {σ α : Type} (act : EStateM IoError σ α) : EStateM Error σ α := fun s =>
  match act s with
  | .ok a s' => .ok a s'
  | .error e s' => .error (.io e) s'

/-- Limit the time of the reads that follow. -/
def limitReads {σ : Type} [Transport σ] (config : Config) : EStateM Error σ Unit :=
  liftIo (Transport.setReadTimeout config.readTimeout)

/-! ### Streams -/

variable {σ : Type} [StreamTransport σ]

/-- The failure of a stream that takes no more bytes. -/
def IoError.writeZero : IoError := { text := "failed to write whole buffer" }

set_option linter.unusedVariables false in
/-- Write all bytes. Short writes are continued and interrupted ones repeated. -/
def writeAll (bytes : Bytes) (s : σ) : EStateM.Result IoError σ Unit :=
  match bytes with
  | [] => .ok () s
  | b :: bs =>
    match h : StreamTransport.write (b :: bs) s with
    | .ok 0 s' => .error .writeZero s'
    | .ok (taken + 1) s' => writeAll (bs.drop taken) s'
    | .error e s' => if hi : e.interrupted then writeAll (b :: bs) s' else .error e s'
termination_by (bytes.length, StreamTransport.interruptions s)
decreasing_by
  · left
    simp only [List.length_drop, List.length_cons]
    omega
  · right
    exact StreamTransport.interruptions_of_failure h hi

/-- Write a request and see it off. -/
def writeRequest (request : Bytes) : EStateM Error σ Unit := do
  liftIo (writeAll request)
  liftIo StreamTransport.flush

theorem consumes_limitReads (config : Config) :
    Decoder.Consumes 0 (limitReads config : Decoder σ Unit) := by
  intro s a s' h
  unfold limitReads liftIo at h
  split at h
  · rename_i h'
    cases h
    exact StreamTransport.pending_of_setReadTimeout h'
  · cases h

end GameProbe
