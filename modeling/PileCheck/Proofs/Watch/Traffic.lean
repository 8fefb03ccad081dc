import PileCheck.Device.Registry
import PileCheck.Watch.Watcher

/-!
# Polls under way

A watcher with the registry that it watches over and all the polls that are under way, each waiting
for the answer to one read. A `Traffic.Act` is what happens between two waits: a poll begins, gets
its answer or is dropped, and devices come, change and go. So a list of acts is an interleaving of
any number of polls, with whatever the cache answers.

The polls are numbered as they begin, and a journal keeps what each was given to read, what it told
observers and what it returned. No poll looks at it.
-/

namespace PileCheck.Watch

/-- What the journal keeps of a poll. -/
inductive Entry where
  /-- A poll found the cache connected, or not, and was given these devices. -/
  | began (poll : Nat) (connected : Bool) (devices : List Device)
  | emitted (poll : Nat) (e : OnlineEvent)
  | returned (poll : Nat) (changed : Nat)
  deriving DecidableEq

namespace Poll.Progress

/-- The poll, if it waits for another answer. -/
def poll? : Poll.Progress → Option Poll
  | reads p => some p
  | ends _ => none

/-- What a poll returns, if it is over. -/
def entries (n : Nat) : Poll.Progress → List Entry
  | reads _ => []
  | ends changed => [.returned n changed]

end Poll.Progress

/-- What observers were told of a device, the oldest first. -/
def toldOf (equipNo : String) (journal : List Entry) : List Bool :=
  journal.filterMap fun
    | .emitted _ e => if e.device = equipNo then some e.online else none
    | _ => none

/-- The events of a poll. -/
def emittedBy (n : Nat) (journal : List Entry) : List OnlineEvent :=
  journal.filterMap fun
    | .emitted poll e => if poll = n then some e else none
    | _ => none

/-- A watcher with everything that goes on around it. -/
structure Traffic where
  watcher : Watcher := {}
  registry : Registry := .empty
  /-- With the number of each poll. -/
  polls : List (Nat × Poll) := []
  /-- The number of the next poll. -/
  next : Nat := 0
  /-- The oldest entry first. -/
  journal : List Entry := []

namespace Traffic

/-- Polls are named by their place in their list. -/
inductive Act where
  /-- A registry lists its devices in any order. -/
  | begin (connected : Bool) (devices : List Device)
  | answer (i : Nat) (r : Except CacheFailure (Option String))
  | drop (i : Nat)
  | register (d : Device)
  | remove (equipNo : String)

/-- The devices have to be those of the registry, in some order. A poll with nothing to read is over
and is not put among those under way. -/
def begin (w : Traffic) (connected : Bool) (devices : List Device) : Traffic :=
  if devices.Perm w.registry.devices then
    let progress := Poll.start connected devices
    { w with
      polls := w.polls ++ progress.poll?.toList.map fun p => (w.next, p)
      next := w.next + 1
      journal := w.journal ++ .began w.next connected devices :: progress.entries w.next }
  else w

/-- A poll runs to its next read, or to its end. -/
def proceed (w : Traffic) (i n : Nat) (m : Watcher × List OnlineEvent × Poll.Progress) : Traffic :=
  { w with
    watcher := m.1
    polls := match m.2.2.poll? with
      | some p => w.polls.set i (n, p)
      | none => w.polls.eraseIdx i
    journal := w.journal ++ (m.2.1.map (.emitted n) ++ m.2.2.entries n) }

/-- The answer to the one read that the poll waits for. -/
def answer (w : Traffic) (i : Nat) (r : Except CacheFailure (Option String)) : Traffic :=
  match w.polls[i]? with
  | some (n, p) => w.proceed i n (w.watcher.resume p r)
  | none => w

/-- An act of a poll that is not there changes nothing. -/
def step (w : Traffic) : Act → Traffic
  | .begin connected devices => w.begin connected devices
  | .answer i r => w.answer i r
  | .drop i => { w with polls := w.polls.eraseIdx i }
  | .register d => { w with registry := w.registry.add d }
  | .remove equipNo => { w with registry := w.registry.remove equipNo }

/-- The oldest act first. -/
def run (w : Traffic) (acts : List Act) : Traffic := acts.foldl step w

end Traffic
end PileCheck.Watch
