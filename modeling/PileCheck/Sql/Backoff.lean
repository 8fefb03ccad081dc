import PileCheck.Failure

/-!
When a failed statement is tried again.

The wait before retry `n` is `base · multiplier ^ n` milliseconds as a binary64 product, cut to a
whole number of 64 bits and capped. `Backoff.decide` is the whole policy: only a failure that may
pass is worth a retry, and only so many times.
-/
namespace PileCheck.Sql

structure Backoff where
  /-- Retries after the first attempt. -/
  maxRetries : Nat := 2
  baseMs : Nat := 200
  maxMs : Nat := 10000
  multiplier : Float := 2
  /-- Adds up to a quarter of the wait, at random. -/
  jitter : Bool := false
  deriving Repr

/-- Whether another attempt may succeed. -/
inductive Outlook where
  | transient
  | permanent
  /-- Nobody knows, so it is tried again. -/
  | unknown
  deriving DecidableEq, Repr

namespace Backoff

/-- `acc · x ^ n` by repeated squaring, from the lowest binary digit of the exponent. -/
def powerOnto (acc x : Float) (n : Nat) : Float :=
  let acc := if n % 2 = 1 then acc * x else acc
  if n < 2 then acc else powerOnto acc (x * x) (n / 2)
  termination_by n

def power (x : Float) (n : Int) : Float :=
  let p := powerOnto 1 x n.natAbs
  if n < 0 then 1 / p else p

/-- An attempt number of 32 bits as a signed exponent. -/
def exponent (attempt : Nat) : Int := Int.bmod attempt (Numeral.nat32Max + 1)

/-- The wait before any jitter. -/
def plainDelay (b : Backoff) (attempt : Nat) : Nat :=
  let ms := b.baseMs.toUInt64.toFloat * power b.multiplier (exponent attempt)
  min ms.toUInt64.toNat b.maxMs

/-- The wait before retry `attempt`, counted from zero; `draw` is a random number below one. -/
def delay (b : Backoff) (attempt : Nat) (draw : Float := 0) : Nat :=
  let ms := b.plainDelay attempt
  if b.jitter then ms + (ms.toUInt64.toFloat * 0.25 * draw).toUInt64.toNat else ms

/-- What follows failed attempt number `attempt`: a wait, or nothing. -/
def decide (b : Backoff) (attempt : Nat) (outlook : Outlook) (draw : Float := 0) : Option Nat :=
  if outlook = .permanent then none
  else if b.maxRetries ≤ attempt then none
  else some (b.delay attempt draw)

end Backoff

def Outlook.ofFailure (f : StoreFailure) : Outlook :=
  if f.isTransient then .transient else .permanent

end PileCheck.Sql
