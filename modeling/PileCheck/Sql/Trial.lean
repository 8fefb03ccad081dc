import PileCheck.Sql.Backoff

/-!
One round of attempts.

The outcomes of the attempts are given, so a round is a list function: how many attempts it takes,
how long it waits between them, and how the last one failed, if it did.
-/
namespace PileCheck.Sql

structure Trial where
  /-- The wait before each retry. -/
  waits : List Nat
  /-- How the last attempt failed; none if it did not. -/
  failure : Option Outlook
  deriving DecidableEq, Repr

/-- The round whose attempts fail as listed, from attempt number `attempt` on; all after the listed
ones succeed. -/
def Backoff.trial (b : Backoff) (attempt : Nat) : List (Option Outlook) → Trial
  | [] => ⟨[], none⟩
  | none :: _ => ⟨[], none⟩
  | some o :: rest =>
    match b.decide attempt o with
    | none => ⟨[], some o⟩
    | some ms =>
      let t := b.trial (attempt + 1) rest
      { t with waits := ms :: t.waits }

namespace Trial

/-- The times of the attempts, the first of them at a given time. -/
def times (now : Nat) : List Nat → List Nat
  | [] => [now]
  | ms :: rest => now :: times (now + ms) rest

def attempts (t : Trial) : Nat := t.waits.length + 1

def elapsed (t : Trial) : Nat := t.waits.foldl (· + ·) 0

end Trial
end PileCheck.Sql
