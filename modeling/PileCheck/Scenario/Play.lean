import PileCheck.Scenario.Timeline

/-!
A play: steps performed one after another on a clock.

A step acts on the world at once, or is a task that the clock runs for until it is over, or lets
time pass. Any of them may also be spawned under a name and joined later. `Play.records` is what an
observer writes down after each step.
-/
namespace PileCheck.Scenario

/-- A task of a play, or a sleep. -/
inductive Part (F : Type) where
  | task (f : F)
  | sleep (ms : Nat)
  | asleep (time : Nat)

namespace Part

variable {W F R : Type}

def lift : Next F R → Next (Part F) (Option R)
  | .again f => .again (.task f)
  | .waits f => .waits (.task f)
  | .ends r => .ends (some r)

/-- The rules of a world whose tasks may also sleep. -/
def rules (r : Rules W F R) : Rules W (Part F) (Option R) where
  timer
    | .task f => r.timer f
    | .sleep _ => none
    | .asleep time => some time
  handed w
    | .task f => r.handed w f
    | _ => false
  rank
    | .task f => r.rank f
    | _ => 0
  yields
    | .task f => r.yields f
    | _ => false
  move w now
    | .task f =>
      let m := r.move w now f
      { world := m.world, next := lift m.next, starts := m.starts.map .task }
    | .sleep ms => { world := w, next := .again (.asleep (now + ms)) }
    | .asleep time =>
      { world := w, next := if time ≤ now then .ends none else .waits (.asleep time) }

end Part

/-- What a step does to a world, and what it answers. -/
inductive Act (W F R O : Type) where
  /-- At once, at a time. It may leave a task behind that nobody waits for. -/
  | instant (f : W → Nat → W × O × Option F)
  /-- With a task, whose result is settled when it is asked for. -/
  | task (f : F) (settle : W → R → W × O)
  | pass (ms : Nat)

inductive Step (W F R O : Type) where
  | act (a : Act W F R O)
  | spawn (name : String) (a : Act W F R O)
  | join (name : String)

inductive Answer (O : Type) where
  | nothing
  | said (o : O)
  | noSuchTask

/-- What a spawned act has still to answer. -/
inductive Pending (W R O : Type) where
  | said (o : O)
  | task (id : Nat) (settle : W → R → W × O)
  | pass (id : Nat)

structure Play (W F R O : Type) where
  time : Timeline W (Part F) (Option R)
  spawned : List (String × Pending W R O) := []

structure Entry (W O : Type) where
  answer : Answer O
  elapsedMs : Nat
  world : W

namespace Play

variable {W F R O : Type}

def start (w : W) : Play W F R O := { time := { world := w } }

def world (p : Play W F R O) : W := p.time.world

def setWorld (p : Play W F R O) (w : W) : Play W F R O :=
  { p with time := { p.time with world := w } }

def settle (p : Play W F R O) (f : W → R → W × O) : Option (Option R) → Play W F R O × Answer O
  | some (some r) =>
    let (w, o) := f p.world r
    (p.setWorld w, .said o)
  | _ => (p, .nothing)

def instant (rules : Rules W F R) (p : Play W F R O) (f : W → Nat → W × O × Option F) :
    Play W F R O × O :=
  let (w, o, task) := f p.world p.time.now
  let p := p.setWorld w
  match task with
  | none => (p, o)
  | some f => ({ p with time := (p.time.background (Part.rules rules) (.task f)).1 }, o)

def perform (rules : Rules W F R) (p : Play W F R O) : Act W F R O → Play W F R O × Answer O
  | .instant f =>
    let (p, o) := p.instant rules f
    (p, .said o)
  | .task f settle =>
    let (time, r) := p.time.perform (Part.rules rules) (.task f)
    { p with time }.settle settle r
  | .pass ms => ({ p with time := p.time.advance (Part.rules rules) ms }, .nothing)

def spawn (rules : Rules W F R) (p : Play W F R O) : Act W F R O → Play W F R O × Pending W R O
  | .instant f =>
    let (p, o) := p.instant rules f
    (p, .said o)
  | .task f settle =>
    let (time, id) := p.time.background (Part.rules rules) (.task f)
    ({ p with time }, .task id settle)
  | .pass ms =>
    let (time, id) := p.time.background (Part.rules rules) (.sleep ms)
    ({ p with time }, .pass id)

def join (rules : Rules W F R) (p : Play W F R O) : Pending W R O → Play W F R O × Answer O
  | .said o => (p, .said o)
  | .task id settle =>
    let (time, r) := p.time.join (Part.rules rules) id
    { p with time }.settle settle r
  | .pass id => ({ p with time := (p.time.join (Part.rules rules) id).1 }, .nothing)

def step (rules : Rules W F R) (p : Play W F R O) : Step W F R O → Play W F R O × Answer O
  | .act a => p.perform rules a
  | .spawn name a =>
    let (p, pending) := p.spawn rules a
    ({ p with spawned := (name, pending) :: p.spawned }, .nothing)
  | .join name =>
    let pending := p.spawned.lookup name
    let p := { p with spawned := p.spawned.filter (·.1 != name) }
    match pending with
    | some pending => p.join rules pending
    | none => (p, .noSuchTask)

/-- One step; all that can go on afterwards does, before the entry is made. -/
def record (rules : Rules W F R) (p : Play W F R O) (s : Step W F R O) :
    Play W F R O × Entry W O :=
  let before := p.time.now
  let (p, answer) := p.step rules s
  let elapsedMs := p.time.now - before
  let rules := Part.rules rules
  let p := { p with time := (p.time.wake rules).rest rules }
  (p, { answer, elapsedMs, world := p.world })

/-- The entries of all steps; `clear` empties the world's logs between them. -/
def records (rules : Rules W F R) (clear : W → W) (p : Play W F R O) :
    List (Step W F R O) → List (Entry W O)
  | [] => []
  | s :: rest =>
    let (p, e) := p.record rules s
    e :: (p.setWorld (clear p.world)).records rules clear rest

end Play
end PileCheck.Scenario
