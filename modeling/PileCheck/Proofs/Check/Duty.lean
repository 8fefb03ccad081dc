import PileCheck.Check.Closing

/-!
# A desk on duty

A `Duty` is a desk together with the calls that are under way on it: commands that are being
published, and ended checks that are being recorded. An `Act` is what happens between two waits of
one call, so a list of acts is an interleaving of any number of calls: a publication may stay out
while messages come in, and a check may be read and stored while its device is triggered again.

What the bus, the registry, the cache and the store answer is part of the act, and may be anything.

The `journal` is what the duty is judged by. It says when a number was given out and to which
device, how its session left the table, what was handed to the store and what the store said, and
what observers heard. The desk never looks at it.
-/

namespace PileCheck.Check

open Cache (Reading Answers)

/-! ## Conclusions -/

/-- An ended check, up to the answer of the store. -/
inductive Conclusion where
  /-- The cache has still some questions to answer. -/
  | reading (c : Closing) (device : Option Device) (r : Reading Findings)
  | storing (r : Recording)

namespace Conclusion

/-- The session that has ended, and what its last message reported. -/
def closing : Conclusion → Closing
  | reading c _ _ => c
  | storing r => r.closing

def request (e : Conclusion) : Nat := e.closing.session.request

/-- The device is looked up once, as the check ends. -/
def begin (c : Closing) (device : Option Device) : Conclusion :=
  .reading c device (gather c.session.device device)

/-- Takes the answer to the next question. -/
def answer (a : Answers) : Conclusion → Conclusion
  | reading c device r => .reading c device (r.answer a)
  | storing r => .storing r

end Conclusion

/-! ## The journal -/

/-- What a duty has done, or has been told. -/
inductive Entry where
  | allocated (request : Nat) (device : String)
  /-- The command could not be published. -/
  | refused (request : Nat)
  /-- The session made room for that of a later request. -/
  | superseded (request later : Nat)
  /-- The session left the table since its command could not be published. -/
  | withdrawn (request : Nat)
  /-- The session left the table on a message. -/
  | ended (request : Nat) (payload : ByteArray)
  /-- The record was handed to the store. -/
  | inserting (request : Nat) (record : Record)
  | answered (request : Nat) (a : Sql.Answer)
  | heard (e : Event)

/-- The request whose course an entry belongs to. A refused command belongs to none, for the session
may have moved on by then. -/
def Entry.request? : Entry → Option Nat
  | allocated request _ => some request
  | refused _ => none
  | superseded request _ => some request
  | withdrawn request => some request
  | ended request _ => some request
  | inserting request _ => some request
  | answered request _ => some request
  | heard (.progress _ _ _) => none
  | heard (.result _ request _ _ _ _) => some request
  | heard (.timedOut _ request) => some request

def Entry.isResultOf (request : Nat) : Entry → Bool
  | heard (.result _ r _ _ _ _) => r = request
  | _ => false

def Entry.isInsertOf (request : Nat) : Entry → Bool
  | inserting r _ => r = request
  | _ => false

/-! ## Acts -/

/-- A desk, and what is under way on it. -/
structure Duty where
  desk : Desk
  publishing : List Trigger := []
  conclusions : List Conclusion := []
  /-- The oldest entry first. -/
  journal : List Entry := []

/-- What happens between two waits. Calls that wait are named by their place in their list. -/
inductive Act where
  | trigger (device : String) (m : Moment)
  | published (i : Nat) (failure : Option BusFailure)
  /-- With what the registry holds at the time. -/
  | receive (payload : ByteArray) (m : Moment) (devices : String → Option Device)
  | read (i : Nat) (a : Answers)
  | record (i : Nat) (m : Moment)
  | stored (i : Nat) (a : Sql.Answer)
  | expire (now : Nat)

namespace Duty

def start (settings : Settings) : Duty := { desk := { settings } }

def note (d : Duty) (entries : List Entry) : Duty := { d with journal := d.journal ++ entries }

/-- A device is to be checked. The session that it has makes room for the new one. -/
def trigger (d : Duty) (device : String) (m : Moment) : Duty :=
  let (desk, t) := d.desk.trigger device m
  let superseded := (d.desk.session? device).toList.map fun s =>
    Entry.superseded s.request t.request
  note { d with desk, publishing := d.publishing ++ [t] }
    (superseded ++ [.allocated t.request device])

/-- The request whose session for a device one desk has and the other has not. -/
def departed (before after : Desk) (device : String) : Option Nat :=
  match before.session? device, after.session? device with
  | some s, none => some s.request
  | _, _ => none

/-- The command has been published, or could not be. -/
def published (d : Duty) (t : Trigger) (failure : Option BusFailure) : Duty :=
  let (desk, events, _) := d.desk.published t failure
  let refused := failure.toList.map fun _ => Entry.refused t.request
  let withdrawn := (departed d.desk desk t.device).toList.map Entry.withdrawn
  note { d with desk } (refused ++ withdrawn ++ events.map .heard)

/-- A message comes in. If it ends a check, the conclusion of this check begins. -/
def receive (d : Duty) (payload : ByteArray) (m : Moment) (devices : String → Option Device) :
    Duty :=
  let (desk, events, closing) := d.desk.receive payload m
  let begun := closing.toList.map fun c => Conclusion.begin c (devices c.session.device)
  let ended := closing.toList.map fun c => Entry.ended c.session.request payload
  note { d with desk, conclusions := d.conclusions ++ begun } (ended ++ events.map .heard)

/-- With everything read, the record goes to the store. -/
def record (d : Duty) (i : Nat) (m : Moment) : Duty :=
  match d.conclusions[i]? with
  | some (.reading c device (.done f)) =>
    let r := c.recording d.desk.settings device f m
    note { d with conclusions := d.conclusions.set i (.storing r) }
      [.inserting c.session.request r.record]
  | _ => d

/-- The store has answered, and observers hear the result. -/
def stored (d : Duty) (i : Nat) (a : Sql.Answer) : Duty :=
  match d.conclusions[i]? with
  | some (.storing r) =>
    note { d with conclusions := d.conclusions.eraseIdx i }
      [.answered r.closing.session.request a, .heard (r.outcome a)]
  | _ => d

/-- The watchdog gives up what has been quiet for too long. -/
def expire (d : Duty) (now : Nat) : Duty :=
  let (desk, events, _) := d.desk.expire now
  note { d with desk } (events.map .heard)

/-- An act of a call that is not there changes nothing. -/
def step (d : Duty) : Act → Duty
  | .trigger device m => d.trigger device m
  | .published i failure =>
    match d.publishing[i]? with
    | some t => published { d with publishing := d.publishing.eraseIdx i } t failure
    | none => d
  | .receive payload m devices => d.receive payload m devices
  | .read i a => { d with conclusions := d.conclusions.modify i (·.answer a) }
  | .record i m => d.record i m
  | .stored i a => d.stored i a
  | .expire now => d.expire now

def run (d : Duty) (acts : List Act) : Duty := acts.foldl step d

/-! ## Views -/

/-- What the journal says of one request. -/
def lifeline (d : Duty) (request : Nat) : List Entry :=
  d.journal.filter fun e => e.request? = some request

/-- How many results of a request observers have heard. -/
def results (d : Duty) (request : Nat) : Nat := d.journal.countP (·.isResultOf request)

/-- How many records of a request were handed to the store. -/
def inserts (d : Duty) (request : Nat) : Nat := d.journal.countP (·.isInsertOf request)

end Duty
end PileCheck.Check
