/-!
# Ids

Sessions, requests and clients are numbered so that a server can echo the number. The numbers come
from an id source.
-/

namespace GameProbe

/-- What ids are drawn from. -/
class IdSource (ι : Type) where
  draw32 : StateM ι UInt32
  draw64 : StateM ι UInt64

namespace IdSource

variable {ι : Type} [IdSource ι]

/-- The id of a query session, which has only the low half of each byte. -/
def sessionId : StateM ι UInt32 := return (← draw32) &&& 0x0F0F0F0F

/-- The id of a remote console request, which is not negative. -/
def requestId : StateM ι Int32 := return ((← draw32) &&& 0x7FFFFFFF).toInt32

end IdSource

/-- An arithmetic progression of 64-bit numbers. -/
structure Progression where
  next : UInt64
  step : UInt64

/-- Draw the next number. -/
def Progression.draw : StateM Progression UInt64 :=
  fun ids => (ids.next, { ids with next := ids.next + ids.step })

/-- A shorter id is the low half of the next number. -/
instance : IdSource Progression where
  draw32 := return (← Progression.draw).toUInt32
  draw64 := Progression.draw

end GameProbe
