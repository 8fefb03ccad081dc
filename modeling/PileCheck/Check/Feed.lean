import PileCheck.Check.Event

/-!
What an observer gets that does not keep up.

Only so many events are kept for it; when it looks, it is told how many it has missed and gets the
rest.
-/
namespace PileCheck.Check

structure Feed where
  missed : Nat
  events : List Event
  deriving DecidableEq, Repr

namespace Feed

/-- What is left of the events since an observer last looked. -/
def ofEvents (capacity : Nat) (events : List Event) : Feed :=
  let kept := max capacity 1
  { missed := events.length - kept, events := events.drop (events.length - kept) }

end Feed
end PileCheck.Check
