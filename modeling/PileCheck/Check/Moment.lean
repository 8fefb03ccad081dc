/-!
A moment, as three clocks tell it.
-/
namespace PileCheck.Check

structure Moment where
  /-- Milliseconds of a clock that never goes back. -/
  ms : Nat
  /-- The universal time with its offset. -/
  stamp : String
  /-- The local time, `YYYY-MM-DD HH:MM:SS`. -/
  date : String
  deriving DecidableEq, Repr

end PileCheck.Check
