/-!
Tasks on a clock that stands still while anything can go on.

A task runs until it waits: for a time, or for something that another task hands it. Tasks that can
go on do so in the order in which they became able to; a task may also let everything else go
first. Only when every task waits does the clock move, to the next time that one of them waits for.
The rules of a world say how its tasks behave; a `Timeline` only keeps the order.
-/
namespace PileCheck.Scenario

inductive Next (F R : Type) where
  | again (f : F)
  | waits (f : F)
  | ends (r : R)

/-- What a move leaves behind; tasks that it starts can go on at once. -/
structure Moved (W F R : Type) where
  world : W
  next : Next F R
  starts : List F := []

structure Rules (W F R : Type) where
  /-- The time at which a waiting task goes on by itself. -/
  timer : F → Option Nat
  /-- Whether a waiting task has been handed what it waits for. -/
  handed : W → F → Bool
  /-- Tasks that are handed something at once become ready by this rank. -/
  rank : F → Nat := fun _ => 0
  /-- Whether a waiting task goes on as soon as nothing else can. -/
  yields : F → Bool
  move : W → Nat → F → Moved W F R

structure Timeline (W F R : Type) where
  world : W
  now : Nat := 0
  /-- Tasks and where they wait, in the order in which they began to. -/
  waiting : List (Nat × F) := []
  /-- Waiting tasks that can go on, in the order in which they became able to. -/
  ready : List Nat := []
  ended : List (Nat × R) := []
  nextTask : Nat := 0

namespace Timeline

variable {W F R : Type}

/-- How many moves one step may take before it is cut off. -/
def moveLimit : Nat := 10000000

/-- Waiting tasks that have just been handed what they wait for become ready. -/
def wake (rules : Rules W F R) (t : Timeline W F R) : Timeline W F R :=
  let woken := t.waiting.filter fun (id, f) => rules.handed t.world f && !t.ready.contains id
  let ranked := woken.mergeSort fun a b => rules.rank a.2 ≤ rules.rank b.2
  { t with ready := t.ready ++ ranked.map Prod.fst }

def start (f : F) (t : Timeline W F R) : Timeline W F R × Nat :=
  ({ t with
      waiting := t.waiting ++ [(t.nextTask, f)]
      ready := t.ready ++ [t.nextTask]
      nextTask := t.nextTask + 1 }, t.nextTask)

/-- Lets one task run until it waits or ends. -/
def runTask (rules : Rules W F R) (id : Nat) : Nat → F → Timeline W F R → Timeline W F R
  | 0, f, t => { t with waiting := t.waiting ++ [(id, f)] }
  | fuel + 1, f, t =>
    let m := rules.move t.world t.now f
    let t := m.starts.foldl (fun t f => (t.start f).1) ({ t with world := m.world }.wake rules)
    match m.next with
    | .again f => runTask rules id fuel f t
    | .waits f => { t with waiting := t.waiting ++ [(id, f)] }
    | .ends r => { t with ended := t.ended ++ [(id, r)] }

/-- The task to run next, if any can go on now. -/
def choose? (rules : Rules W F R) (t : Timeline W F R) : Option (Nat × F) :=
  match t.ready with
  | id :: _ => (t.waiting.find? fun e => e.1 == id)
  | [] => t.waiting.find? fun e => rules.yields e.2

def settle (rules : Rules W F R) : Nat → Timeline W F R → Timeline W F R
  | 0, t => t
  | fuel + 1, t =>
    match t.choose? rules with
    | none => { t with ready := [] }
    | some (id, f) =>
      let t := { t with
        waiting := t.waiting.filter fun e => e.1 != id
        ready := t.ready.filter (· != id) }
      settle rules fuel ((runTask rules id moveLimit f t).wake rules)

def nextTime? (rules : Rules W F R) (t : Timeline W F R) : Option Nat :=
  (t.waiting.filterMap fun e => rules.timer e.2).min?

/-- Moves the clock; the tasks that waited for it can go on. -/
def jump (rules : Rules W F R) (time : Nat) (t : Timeline W F R) : Timeline W F R :=
  let due := t.waiting.filter fun (id, f) =>
    !t.ready.contains id && (rules.timer f).any (· ≤ time)
  { t with now := time, ready := t.ready ++ due.map Prod.fst }

def rest (rules : Rules W F R) (t : Timeline W F R) : Timeline W F R := settle rules moveLimit t

def isEnded (t : Timeline W F R) (id : Nat) : Bool := t.ended.any fun e => e.1 == id

/-- Lets time pass until a task has ended, or until nothing can happen any more. -/
def waitFor (rules : Rules W F R) (id : Nat) : Nat → Timeline W F R → Timeline W F R
  | 0, t => t
  | fuel + 1, t =>
    let t := t.rest rules
    if t.isEnded id then t
    else match t.nextTime? rules with
      | none => t
      | some time => waitFor rules id fuel (t.jump rules time)

def passUntil (rules : Rules W F R) (time : Nat) : Nat → Timeline W F R → Timeline W F R
  | 0, t => t
  | fuel + 1, t =>
    let t := t.rest rules
    match t.nextTime? rules with
    | some next =>
      if next ≤ time then passUntil rules time fuel (t.jump rules next)
      else { t with now := time }
    | none => { t with now := time }

def background (rules : Rules W F R) (f : F) (t : Timeline W F R) : Timeline W F R × Nat :=
  let (t, id) := t.start f
  (t.rest rules, id)

def take? (id : Nat) (t : Timeline W F R) : Timeline W F R × Option R :=
  ({ t with ended := t.ended.filter fun e => e.1 != id },
    (t.ended.find? fun e => e.1 == id).map Prod.snd)

def join (rules : Rules W F R) (id : Nat) (t : Timeline W F R) : Timeline W F R × Option R :=
  (t.waitFor rules id moveLimit).take? id

def perform (rules : Rules W F R) (f : F) (t : Timeline W F R) : Timeline W F R × Option R :=
  let (t, id) := t.start f
  t.join rules id

def advance (rules : Rules W F R) (ms : Nat) (t : Timeline W F R) : Timeline W F R :=
  t.passUntil rules (t.now + ms) moveLimit

end Timeline
end PileCheck.Scenario
