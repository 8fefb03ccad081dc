import PileCheck.Cache.Query
import PileCheck.Proofs.Places

/-!
# Traffic on a link

A link with all that is under way on it: attempts in the background, callers that take it down, and
queries. An `Act` is what happens between two waits, and an attempt or a caller that takes the link
down waits between its two writes as well: the connection in hand, and what is said about it.

The replies of the server are part of the acts, and so is the clock.
-/

namespace PileCheck.Cache

namespace Asking

/-- The query has given the connection up and has not said so yet. -/
def isLeaving : Asking → Bool
  | reply _ _ _ => false
  | leaving _ _ => true

def Progress.asking? : Progress → Option Asking
  | waits a => some a
  | ends _ => none

end Asking

/-- A link with all that is under way on it. -/
structure Traffic where
  link : Link
  now : Nat := 0
  attempts : List Attempt := []
  leaves : List Leave := []
  asks : List Asking := []

namespace Traffic

/-- What is under way is named by its place in its list. -/
inductive Act where
  | connect
  | attempt (i : Nat) (r : Attempt.Reply)
  | disconnect
  | left (i : Nat)
  | pass (ms : Nat)
  | ask (q : Query)
  | reply (i : Nat) (r : Asking.Reply)

def start (settings : Settings) : Traffic := { link := { settings } }

def connect (w : Traffic) : Traffic :=
  let (link, attempt) := w.link.connect w.now
  { w with link, attempts := w.attempts ++ attempt.toList }

/-- An attempt goes on to its next wait or is over. -/
def attempt (w : Traffic) (i : Nat) (r : Attempt.Reply) : Traffic :=
  match w.attempts[i]? with
  | some a =>
    let (link, next) := w.link.resumeAttempt a r
    { w with
      link
      attempts := match next with
        | some a => w.attempts.set i a
        | none => w.attempts.eraseIdx i }
  | none => w

def disconnect (w : Traffic) : Traffic :=
  let (link, leave) := w.link.leave
  { w with link, leaves := w.leaves ++ [leave] }

/-- Who has taken the link down says so. -/
def left (w : Traffic) (i : Nat) : Traffic :=
  match w.leaves[i]? with
  | some leave => { w with link := w.link.left leave, leaves := w.leaves.eraseIdx i }
  | none => w

/-- A query begins, and may begin an attempt instead of waiting. -/
def ask (w : Traffic) (q : Query) : Traffic :=
  let (link, attempt, progress) := w.link.ask w.now q
  { w with
    link
    attempts := w.attempts ++ attempt.toList
    asks := w.asks ++ progress.asking?.toList }

def reply (w : Traffic) (i : Nat) (r : Asking.Reply) : Traffic :=
  match w.asks[i]? with
  | some a =>
    let (link, progress) := w.link.resumeAsking a r
    { w with
      link
      asks := match progress.asking? with
        | some a => w.asks.set i a
        | none => w.asks.eraseIdx i }
  | none => w

/-- An act of what is not there changes nothing. -/
def step (w : Traffic) : Act → Traffic
  | .connect => w.connect
  | .attempt i r => w.attempt i r
  | .disconnect => w.disconnect
  | .left i => w.left i
  | .pass ms => { w with now := w.now + ms }
  | .ask q => w.ask q
  | .reply i r => w.reply i r

def run (w : Traffic) (acts : List Act) : Traffic := acts.foldl step w

/-! ## Between two writes -/

/-- An attempt has put its connection in hand and has not said so yet. -/
def Announcing (w : Traffic) : Prop := .announcing ∈ w.attempts

/-- The connection in hand was given up, and somebody has still to say so. -/
def Leaving (w : Traffic) : Prop := w.leaves ≠ [] ∨ w.asks.any Asking.isLeaving = true

/-- Nobody has anything left to say about the link. -/
def AtRest (w : Traffic) : Prop := ¬w.Announcing ∧ ¬w.Leaving

/-- One cuts in between what another has done to the link and what it will say about it: an attempt
comes to nothing beside a connection of another one, or puts its connection in hand while the link
is being taken down; or the link is taken down before an attempt has announced its connection. -/
def Crosses (w : Traffic) : Act → Prop
  | .attempt i (.connected _) => w.attempts[i]? = some .dialing ∧ w.Leaving
  | .attempt i .refused | .attempt i .expired =>
    w.attempts[i]? = some .dialing ∧ w.link.slot ≠ none
  | .disconnect => w.Announcing
  | .reply i (.said (.failed true _)) =>
    (∃ connection c keys, w.asks[i]? = some (.reply connection c keys)) ∧ w.Announcing
  | _ => False

/-- A run in which nobody cuts in. -/
def Uncrossed (w : Traffic) : List Act → Prop
  | [] => True
  | a :: rest => ¬w.Crosses a ∧ (w.step a).Uncrossed rest

end Traffic
end PileCheck.Cache
