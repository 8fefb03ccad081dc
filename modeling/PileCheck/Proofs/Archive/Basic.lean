import PileCheck.Proofs.Check.Duty
import PileCheck.Proofs.Sql.Rounds
import PileCheck.Proofs.Sql.Workload
import PileCheck.Record.Stored

/-!
# A duty and the store that it records in

An `Archive` is a duty together with a store at work. When a check has read everything, its record
is handed over: a call on the store begins, the `Filing` of the request, which goes on until the
store has an answer for the duty. Beside the filings the store runs the statements of others and its
upkeep, in any order with them.

What a server does with a statement is not what is heard of it. An `Attempt` is one run of an
insertion on a server, and says both: the answer, if one is heard, and whether the server has
applied the statement. A success was applied and a refusal was not; of a failure that may pass, such
as a connection that is lost, nobody can tell (`Reply.allows`). Nothing that runs looks at whether
an attempt was applied. The attempts that were applied are the rows of the table.
-/

namespace PileCheck

open Check (Duty Moment)
open Sql (Call Workload)

/-- Whether a server may have done so, by the answer to the statement. -/
def Sql.Call.Reply.allows (applied : Bool) : Sql.Call.Reply → Bool
  | .answered (.ok _) => applied
  | .answered (.error f) => f.isTransient || !applied
  | _ => true

namespace Archive

/-! ## Filings and attempts -/

/-- One run of an insertion on a server. -/
structure Attempt where
  request : Nat
  statement : Sql.Statement
  /-- None if the call was dropped while the statement ran. -/
  answer : Option Sql.Answer
  /-- Whether the server has applied the statement, which adds a row. -/
  applied : Bool

namespace Attempt

/-- The client has heard of a success. -/
def isAcknowledged (t : Attempt) : Bool :=
  match t.answer with
  | some (.ok _) => true
  | _ => false

/-- The client has heard of a failure that may pass. -/
def isLost (t : Attempt) : Bool :=
  match t.answer with
  | some a => Sql.Answer.isTransient a
  | none => false

end Attempt

/-- The record of a request on its way into the table. -/
structure Filing where
  request : Nat
  call : Call

/-- A run of the statement of a filing. -/
def Filing.attempt (f : Filing) (answer : Option Sql.Answer) (applied : Bool) : Attempt :=
  { request := f.request, statement := f.call.statement, answer, applied }

/-- A statement that is answered has been on a server. -/
def Filing.attempted (f : Filing) (applied : Bool) : Call.Reply → List Attempt
  | .answered a => [f.attempt (some a) applied]
  | _ => []

/-- So has one whose call is dropped while it runs. -/
def Filing.cutOff (f : Filing) (applied : Bool) : List Attempt :=
  match f.call.stage with
  | .running _ => [f.attempt none applied]
  | _ => []

end Archive

/-! ## Acts -/

/-- A duty and a store at work, with the records on their way between them. -/
structure Archive where
  duty : Duty
  work : Workload
  filings : List Archive.Filing := []
  /-- The oldest attempt first. -/
  attempts : List Archive.Attempt := []

namespace Archive

def start (settings : Check.Settings) (store : Sql.Store) : Archive :=
  { duty := .start settings, work := { store } }

/-- Filings are named by their place in their list. -/
inductive Act where
  /-- What a duty does beside handing over records and hearing of them. -/
  | duty (a : Check.Act)
  /-- A check that has read everything hands its record over. -/
  | record (i : Nat) (m : Moment)
  /-- A filing is told something; `applied` matters if it is the answer to its statement. -/
  | reply (i now : Nat) (r : Call.Reply) (draw : Float) (applied : Bool)
  | abandon (i : Nat) (applied : Bool)
  /-- What others do on the store. -/
  | other (a : Workload.Act)

/-- Whether an act of a duty does not involve the store. -/
def passes : Check.Act → Bool
  | .record _ _ | .stored _ _ => false
  | _ => true

def record (w : Archive) (i : Nat) (m : Moment) : Archive :=
  match w.duty.conclusions[i]? with
  | some (.reading c device (.done f)) =>
    let insertion := (c.recording w.duty.desk.settings device f m).record.insertion
    let (store, call) :=
      w.work.store.begin insertion.statement insertion.preferReplica m.ms
    { w with
      duty := w.duty.step (.record i m)
      work := { w.work with store }
      filings := w.filings ++ [{ request := c.session.request, call }] }
  | _ => w

/-- The duty hears what has become of the record of a request. -/
def tell (w : Archive) (request : Nat) (a : Sql.Answer) : Archive :=
  match w.duty.conclusions.findIdx? (·.request = request) with
  | some i => { w with duty := w.duty.step (.stored i a) }
  | none => w

/-- A filing goes on to its next wait, or the duty hears of its end. -/
def proceed (w : Archive) (i : Nat) (f : Filing) : Call.Progress → Archive
  | .waits call => { w with filings := w.filings.set i { f with call } }
  | .ends _ a => { w with filings := w.filings.eraseIdx i }.tell f.request a

/-- The jitter is drawn from zero on and below one. -/
def reply (w : Archive) (i now : Nat) (r : Call.Reply) (draw : Float) (applied : Bool) : Archive :=
  match w.filings[i]? with
  | some f =>
    if w.work.store.admits f.call now r = true ∧ r.allows applied = true ∧ 0 ≤ draw ∧ draw < 1 then
      let (store, progress) := w.work.store.resume f.call now r draw
      { w with
        work := { w.work with store }
        attempts := w.attempts ++ f.attempted applied r }.proceed i f progress
    else w
  | none => w

/-- A filing is dropped at its wait, and the duty never hears of it. -/
def abandon (w : Archive) (i : Nat) (applied : Bool) : Archive :=
  match w.filings[i]? with
  | some f =>
    { w with
      work := { w.work with store := w.work.store.abandon f.call }
      filings := w.filings.eraseIdx i
      attempts := w.attempts ++ f.cutOff applied }
  | none => w

/-- An act of a filing that is not there changes nothing. -/
def step (w : Archive) : Act → Archive
  | .duty a => if passes a then { w with duty := w.duty.step a } else w
  | .record i m => w.record i m
  | .reply i now r draw applied => w.reply i now r draw applied
  | .abandon i applied => w.abandon i applied
  | .other a => { w with work := w.work.step a }

def run (w : Archive) (acts : List Act) : Archive := acts.foldl step w

/-! ## Views -/

/-- The attempts of a request, the oldest first. -/
def tries (w : Archive) (request : Nat) : List Attempt :=
  w.attempts.filter (·.request = request)

/-- How many rows of a request there are in the table. -/
def rows (w : Archive) (request : Nat) : Nat := (w.tries request).countP (·.applied)

/-- How many rows the client has heard of. -/
def acknowledged (w : Archive) (request : Nat) : Nat :=
  (w.tries request).countP (·.isAcknowledged)

/-- How many rows there are that the client has not heard of. -/
def unheard (w : Archive) (request : Nat) : Nat :=
  (w.tries request).countP fun t => t.applied && !t.isAcknowledged

end Archive
end PileCheck
