/-!
# Timing

What the clocks show around one exchange, in milliseconds.
-/

namespace GameProbe

/-- What comes of arithmetic that is checked for overflow. -/
inductive Checked (α : Type)
  | value (a : α)
  /-- A number did not fit, and the program stopped on the spot. -/
  | overflow
deriving DecidableEq

namespace Checked

variable {α β : Type}

/-- Make something of a value. Where the program has stopped, nothing is made. -/
def map (f : α → β) : Checked α → Checked β
  | value a => value (f a)
  | overflow => overflow

/-- The difference of two numbers, if it fits. -/
def sub (a b : Int64) : Checked Int64 :=
  if (a - b).toInt = a.toInt - b.toInt then value (a - b) else overflow

end Checked

/-- Readings of the clocks around an exchange. -/
structure Timing where
  /-- The time of day when the request is made, counted from the Unix epoch. -/
  sentAt : Int64
  /-- The time of day when the answer has been decoded. -/
  receivedAt : Int64
  /-- How long the exchange took. -/
  roundTrip : Int64

/-- The time since a timestamp when the answer has been decoded. -/
def Timing.since (timing : Timing) (timestamp : Int64) : Checked Int64 :=
  .sub timing.receivedAt timestamp

end GameProbe
