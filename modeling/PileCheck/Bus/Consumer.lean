import PileCheck.Bus.Call

/-!
A consumer, which never gives up.

It takes one delivery at a time from its stream, lets the handler have it and acknowledges it. When
the stream ends or breaks it asks for a new one, again and again, and waits longer after each
refusal.
-/
namespace PileCheck.Bus

structure Delivery where
  tag : Nat
  payload : ByteArray

/-- The first wait after a refusal. -/
def baseDelayMs : Nat := 500

def maxDelayMs : Nat := 30000

/-- The longest time there is, in whole milliseconds: its seconds are a number of 64 bits. -/
def longestMs : Nat := Numeral.nat64Max * 1000 + 999

/-- A power of two, or the largest number of 32 bits. -/
def doubled (times : Nat) : Nat := min Numeral.nat32Max (Nat.pow 2 times)

/-- The wait after refusal number `attempt`, counted from zero: it doubles up to a limit. -/
def resubscribeDelay (attempt : Nat) : Nat :=
  min maxDelayMs (min longestMs (baseDelayMs * doubled (min attempt 16)))

inductive Consumer where
  | listening (stream : Nat)
  /-- The handler has a delivery. -/
  | handling (stream : Nat) (d : Delivery)
  | acknowledging (stream : Nat) (d : Delivery)
  /-- Asking for a new stream, after so many refusals. -/
  | reopening (attempt : Nat) (c : Call)
  /-- The call after so many refusals was refused too, and this wait is before the next one. -/
  | resting (attempt waitMs : Nat)

namespace Consumer

inductive Reply where
  | delivered (d : Delivery)
  | broke
  | ended
  | handled
  /-- The acknowledgement is out, or failed; it is not repeated. -/
  | acknowledged
  | call (r : Call.Reply)
  | rested

def reopened (attempt : Nat) : Line × Call.Progress → Line × Consumer
  | (b, .waits c) => (b, .reopening attempt c)
  | (b, .ends (.streaming stream)) => (b, .listening stream)
  | (b, .ends _) => (b, .resting attempt (resubscribeDelay attempt))

def reopen (b : Line) (alive : Link → Bool) (queue : String) (attempt : Nat) : Line × Consumer :=
  reopened attempt (b.call alive (.consume queue))

/-- Takes a consumer of a queue from one wait to the next. -/
def resume (b : Line) (alive : Link → Bool) (queue : String) :
    Consumer → Reply → Line × Consumer
  | listening stream, .delivered d => (b, handling stream d)
  | listening _, .broke => reopen b.markFailed alive queue 0
  | listening _, .ended => reopen b alive queue 0
  | handling stream d, .handled => (b, acknowledging stream d)
  | acknowledging stream _, .acknowledged => (b, listening stream)
  | reopening attempt c, .call r => reopened attempt (b.resumeCall alive c r)
  | resting attempt _, .rested => reopen b alive queue (attempt + 1)
  | c, _ => (b, c)

def stream? : Consumer → Option Nat
  | listening stream => some stream
  | handling stream _ => some stream
  | acknowledging stream _ => some stream
  | reopening _ _ => none
  | resting _ _ => none

/-- The consumer is stopped at its wait. -/
def stop (b : Line) : Consumer → Line
  | reopening _ c => b.abandonCall c
  | _ => b

end Consumer
end PileCheck.Bus
