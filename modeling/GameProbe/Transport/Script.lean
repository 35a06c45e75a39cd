import GameProbe.Transport.Basic
import GameProbe.Wire.Fixed

/-!
# Scripts

What a server will say, written down in advance. A script may quote the client, so what it says
can depend on what has been sent by the time it is reached.
-/

namespace GameProbe

/-- A part of a script. -/
inductive Part
  | bytes (data : Bytes)
  /-- One read fails. -/
  | failure (cause : IoError)
  /-- What the client has sent from `offset` on, as a number of `length` bytes with the most
  significant first, increased by `increment`. Bytes not sent count as zero. -/
  | echo (offset length : Nat) (increment : Int)
  /-- Say nothing before the client has sent `count` bytes. -/
  | await (count : Nat)

/-- A list of parts, to be said in order. -/
abbrev Script := List Part

/-- What an echo says to a client that has sent `sent`. -/
def echoed (sent : Bytes) (offset length : Nat) (increment : Int) : Bytes :=
  let quoted := (sent.drop offset).take length
  let quoted := quoted ++ List.replicate (length - quoted.length) 0
  Wire.bigEndian length (((Wire.ofBigEndian quoted : Int) + increment) % Nat.pow 256 length).toNat

theorem length_echoed (sent : Bytes) (offset length : Nat) (increment : Int) :
    (echoed sent offset length increment).length = length := by
  simp [echoed]

/-- How many reads a part can serve. -/
def Part.size : Part → Nat
  | .bytes data => data.length
  | .failure _ => 1
  | .echo _ length _ => length
  | .await _ => 0

/-- How many bytes a part holds. -/
def Part.byteCount : Part → Nat
  | .failure _ => 0
  | part => part.size

namespace Script

/-- How many reads a script can serve. -/
def size : Script → Nat
  | [] => 0
  | part :: rest => part.size + size rest

/-- How many bytes a script holds. -/
def byteCount : Script → Nat
  | [] => 0
  | part :: rest => part.byteCount + byteCount rest

/-- The next piece of a script, of at most `limit` bytes and out of one part, and what is left of
the script. A script that waits fails with the words `silence`. -/
def next (silence : String) (sent : Unit → Bytes) (limit : Nat) :
    Script → Except IoError Bytes × Script
  | [] => (.ok [], [])
  | .bytes [] :: rest => next silence sent limit rest
  | .bytes data :: rest => (.ok (data.take limit), .bytes (data.drop limit) :: rest)
  | .failure cause :: rest => (.error cause, rest)
  | .echo _ 0 _ :: rest => next silence sent limit rest
  | .echo offset length increment :: rest =>
    let data := echoed (sent ()) offset length increment
    (.ok (data.take limit), .bytes (data.drop limit) :: rest)
  | .await count :: rest =>
    if count ≤ (sent ()).length then next silence sent limit rest
    else (.error { text := silence }, .await count :: rest)

theorem length_le_of_next {silence : String} {sent : Unit → Bytes} {limit : Nat}
    {script rest : Script} {bytes : Bytes}
    (h : next silence sent limit script = (.ok bytes, rest)) : bytes.length ≤ limit := by
  fun_induction next silence sent limit script with
  | case1 => cases h; simp
  | case2 _ ih => exact ih h
  | case3 | case6 =>
    cases h
    exact List.length_take_le ..
  | case4 | case8 => cases h
  | case5 _ _ _ ih => exact ih h
  | case7 _ _ _ ih => exact ih h

theorem size_of_next {silence : String} {sent : Unit → Bytes} {limit : Nat}
    {script rest : Script} {bytes : Bytes}
    (h : next silence sent limit script = (.ok bytes, rest)) :
    rest.size + bytes.length ≤ script.size := by
  fun_induction next silence sent limit script with
  | case1 => cases h; simp
  | case2 _ ih => simpa [size, Part.size] using ih h
  | case3 =>
    cases h
    simp only [size, Part.size, List.length_drop, List.length_take]
    omega
  | case4 | case8 => cases h
  | case5 _ _ _ ih => simpa [size, Part.size] using ih h
  | case6 _ length _ _ _ data =>
    cases h
    have : data.length = length := length_echoed ..
    simp only [size, Part.size, List.length_drop, List.length_take, this]
    omega
  | case7 _ _ _ ih => simpa [size, Part.size] using ih h

theorem size_of_next_failure {silence : String} {sent : Unit → Bytes} {limit : Nat}
    {script rest : Script} {e : IoError}
    (h : next silence sent limit script = (.error e, rest)) :
    rest.size + e.interrupted.toNat ≤ script.size := by
  fun_induction next silence sent limit script with
  | case1 | case3 | case6 => cases h
  | case2 _ ih => simpa [size, Part.size] using ih h
  | case4 =>
    cases h
    have := Bool.toNat_le e.interrupted
    simp only [size, Part.size]
    omega
  | case5 _ _ _ ih => simpa [size, Part.size] using ih h
  | case7 _ _ _ ih => simpa [size, Part.size] using ih h
  | case8 =>
    cases h
    simp

/-- All that a script says to a client that has sent `sent`, unless it fails. -/
def contents (silence : String) (sent : Bytes) : Script → Except IoError Bytes
  | [] => .ok []
  | .bytes data :: rest => return data ++ (← contents silence sent rest)
  | .failure cause :: _ => .error cause
  | .echo offset length increment :: rest =>
    return echoed sent offset length increment ++ (← contents silence sent rest)
  | .await count :: rest =>
    if count ≤ sent.length then contents silence sent rest else .error { text := silence }

end Script

end GameProbe
