/-!
How the online watcher runs.
-/
namespace PileCheck.Watch

/-- The shortest interval between polls. -/
def minIntervalMs : Nat := 1000

structure Settings where
  enabled : Bool := true
  pollIntervalMs : Nat := 5000
  deriving DecidableEq, Repr

/-- The interval between polls, never shorter than the minimum. -/
def Settings.intervalMs (s : Settings) : Nat := max s.pollIntervalMs minIntervalMs

/-- A tick that is taken no later than this is on time. -/
def toleranceMs : Nat := 5

/-- The tick after one that was due at a time and is taken now. Ticks keep their rhythm; those that
have gone by when one is taken late are left out. -/
def Settings.nextTick (s : Settings) (tick now : Nat) : Nat :=
  if tick + toleranceMs < now then now + s.intervalMs - (now - tick) % s.intervalMs
  else tick + s.intervalMs

end PileCheck.Watch
