import PileCheck.Json.Basic

/-!
What a charge-control unit reports about itself.

A unit has 32 numbered flags: `flag` reads the flag at a number, and `ofFlags` builds the attributes
from a reading of every number. A number from 32 on names no flag. A contactor that sticks or
refuses is an error and a stopped fan a warning; the other flags are plain feedback.
-/
namespace PileCheck.Ccu

/-- The number of flags. -/
def flagCount : Nat := 32

structure Contactor where
  stuck : Bool := false
  refuse : Bool := false
  deriving DecidableEq, Repr

structure ContactorPair where
  positive : Contactor := {}
  negative : Contactor := {}
  deriving DecidableEq, Repr

structure Fan where
  stopped : Bool := false
  rotating : Bool := false
  deriving DecidableEq, Repr

/-- One connector with its lock and its auxiliary supplies. -/
structure Gun where
  contactors : ContactorPair := {}
  unlocked : Bool := false
  locked : Bool := false
  aux12v : Bool := false
  aux24v : Bool := false
  deriving DecidableEq, Repr

structure Attributes where
  /-- The unit's own number, when it says one. -/
  index : Option Nat := none
  acContactor1 : Contactor := {}
  acContactor2 : Contactor := {}
  parallel : ContactorPair := {}
  fan1 : Fan := {}
  fan2 : Fan := {}
  fan3 : Fan := {}
  fan4 : Fan := {}
  gunA : Gun := {}
  gunB : Gun := {}
  deriving DecidableEq, Repr

/-! ## Flags by number

Each part takes its flags from a reading of all numbers, starting at the number of its first. -/

def Contactor.ofFlags (f : Nat → Bool) (first : Nat) : Contactor :=
  { refuse := f first, stuck := f (first + 1) }

def ContactorPair.ofFlags (f : Nat → Bool) (first : Nat) : ContactorPair :=
  { positive := .ofFlags f first, negative := .ofFlags f (first + 2) }

def Fan.ofFlags (f : Nat → Bool) (first : Nat) : Fan :=
  { stopped := f first, rotating := f (first + 1) }

def Gun.ofFlags (f : Nat → Bool) (first : Nat) : Gun :=
  { contactors := .ofFlags f first
    unlocked := f (first + 4)
    locked := f (first + 5)
    aux12v := f (first + 6)
    aux24v := f (first + 7) }

namespace Attributes

def flag (a : Attributes) : Nat → Bool
  | 0 => a.acContactor1.refuse
  | 1 => a.acContactor1.stuck
  | 2 => a.acContactor2.refuse
  | 3 => a.acContactor2.stuck
  | 4 => a.parallel.positive.refuse
  | 5 => a.parallel.positive.stuck
  | 6 => a.parallel.negative.refuse
  | 7 => a.parallel.negative.stuck
  | 8 => a.fan1.stopped
  | 9 => a.fan1.rotating
  | 10 => a.fan2.stopped
  | 11 => a.fan2.rotating
  | 12 => a.fan3.stopped
  | 13 => a.fan3.rotating
  | 14 => a.fan4.stopped
  | 15 => a.fan4.rotating
  | 16 => a.gunA.contactors.positive.refuse
  | 17 => a.gunA.contactors.positive.stuck
  | 18 => a.gunA.contactors.negative.refuse
  | 19 => a.gunA.contactors.negative.stuck
  | 20 => a.gunA.unlocked
  | 21 => a.gunA.locked
  | 22 => a.gunA.aux12v
  | 23 => a.gunA.aux24v
  | 24 => a.gunB.contactors.positive.refuse
  | 25 => a.gunB.contactors.positive.stuck
  | 26 => a.gunB.contactors.negative.refuse
  | 27 => a.gunB.contactors.negative.stuck
  | 28 => a.gunB.unlocked
  | 29 => a.gunB.locked
  | 30 => a.gunB.aux12v
  | 31 => a.gunB.aux24v
  | _ => false

/-- The attributes with the given flags. -/
def ofFlags (index : Option Nat) (f : Nat → Bool) : Attributes :=
  { index
    acContactor1 := Contactor.ofFlags f 0
    acContactor2 := Contactor.ofFlags f 2
    parallel := ContactorPair.ofFlags f 4
    fan1 := Fan.ofFlags f 8
    fan2 := Fan.ofFlags f 10
    fan3 := Fan.ofFlags f 12
    fan4 := Fan.ofFlags f 14
    gunA := Gun.ofFlags f 16
    gunB := Gun.ofFlags f 24 }

def setFlag (a : Attributes) (i : Nat) (b : Bool) : Attributes :=
  ofFlags a.index fun j => if j = i then b else a.flag j

/-- Attributes are their number and their flags. -/
theorem ofFlags_flag (a : Attributes) : ofFlags a.index a.flag = a := rfl

theorem flag_ofFlags (index : Option Nat) (f : Nat → Bool) {i : Nat} (h : i < flagCount) :
    (ofFlags index f).flag i = f i := by
  match i, h with
  | 0, _ | 1, _ | 2, _ | 3, _ | 4, _ | 5, _ | 6, _ | 7, _ | 8, _ | 9, _ | 10, _ | 11, _
  | 12, _ | 13, _ | 14, _ | 15, _ | 16, _ | 17, _ | 18, _ | 19, _ | 20, _ | 21, _ | 22, _
  | 23, _ | 24, _ | 25, _ | 26, _ | 27, _ | 28, _ | 29, _ | 30, _ | 31, _ => rfl
  | n + 32, h => exact absurd h (by simp [flagCount])

theorem flag_setFlag (a : Attributes) (i : Nat) (b : Bool) {j : Nat} (h : j < flagCount) :
    (a.setFlag i b).flag j = if j = i then b else a.flag j :=
  flag_ofFlags _ _ h

end Attributes

/-! ## Faults -/

inductive Severity where
  | warning
  | error
  deriving DecidableEq, Repr

structure Fault where
  /-- The flag's dotted name. -/
  flag : String
  severity : Severity
  deriving DecidableEq, Repr

/-- The flags that mean trouble, in the order in which they are reported. -/
def troubles : List (Nat × Fault) :=
  [(1, ⟨"ac_contactor_1.stuck", .error⟩), (0, ⟨"ac_contactor_1.refuse", .error⟩),
    (3, ⟨"ac_contactor_2.stuck", .error⟩), (2, ⟨"ac_contactor_2.refuse", .error⟩),
    (5, ⟨"parallel_contactor.positive_stuck", .error⟩),
    (4, ⟨"parallel_contactor.positive_refuse", .error⟩),
    (7, ⟨"parallel_contactor.negative_stuck", .error⟩),
    (6, ⟨"parallel_contactor.negative_refuse", .error⟩),
    (8, ⟨"fan_1.stopped", .warning⟩), (10, ⟨"fan_2.stopped", .warning⟩),
    (12, ⟨"fan_3.stopped", .warning⟩), (14, ⟨"fan_4.stopped", .warning⟩),
    (17, ⟨"gun_a.positive_contactor_stuck", .error⟩),
    (16, ⟨"gun_a.positive_contactor_refuse", .error⟩),
    (19, ⟨"gun_a.negative_contactor_stuck", .error⟩),
    (18, ⟨"gun_a.negative_contactor_refuse", .error⟩),
    (25, ⟨"gun_b.positive_contactor_stuck", .error⟩),
    (24, ⟨"gun_b.positive_contactor_refuse", .error⟩),
    (27, ⟨"gun_b.negative_contactor_stuck", .error⟩),
    (26, ⟨"gun_b.negative_contactor_refuse", .error⟩)]

def Attributes.faults (a : Attributes) : List Fault :=
  troubles.filterMap fun (i, fault) => if a.flag i then some fault else none

/-! ## As a document -/

def Severity.word : Severity → String
  | warning => "warning"
  | error => "error"

def Fault.json (f : Fault) : Json :=
  .ofMembers [("flag", .text f.flag), ("severity", .text f.severity.word)]

def Contactor.json (c : Contactor) : Json :=
  .ofMembers [("stuck", .bool c.stuck), ("refuse", .bool c.refuse)]

def ContactorPair.json (p : ContactorPair) : Json :=
  .ofMembers [("positive_stuck", .bool p.positive.stuck),
    ("positive_refuse", .bool p.positive.refuse), ("negative_stuck", .bool p.negative.stuck),
    ("negative_refuse", .bool p.negative.refuse)]

def Fan.json (f : Fan) : Json :=
  .ofMembers [("stopped", .bool f.stopped), ("rotating", .bool f.rotating)]

def Gun.json (g : Gun) : Json :=
  .ofMembers [("positive_contactor_stuck", .bool g.contactors.positive.stuck),
    ("positive_contactor_refuse", .bool g.contactors.positive.refuse),
    ("negative_contactor_stuck", .bool g.contactors.negative.stuck),
    ("negative_contactor_refuse", .bool g.contactors.negative.refuse),
    ("unlocked", .bool g.unlocked), ("locked", .bool g.locked),
    ("aux_power_12v", .bool g.aux12v), ("aux_power_24v", .bool g.aux24v)]

def Attributes.json (a : Attributes) : Json :=
  .ofMembers [("index", .intOrNull (a.index.map Int.ofNat)),
    ("ac_contactor_1", a.acContactor1.json), ("ac_contactor_2", a.acContactor2.json),
    ("parallel_contactor", a.parallel.json), ("fan_1", a.fan1.json), ("fan_2", a.fan2.json),
    ("fan_3", a.fan3.json), ("fan_4", a.fan4.json), ("gun_a", a.gunA.json), ("gun_b", a.gunB.json)]

end PileCheck.Ccu
