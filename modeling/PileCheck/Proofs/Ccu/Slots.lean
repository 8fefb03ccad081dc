import PileCheck.Ccu.Attributes
import PileCheck.Proofs.Json

/-!
# The table of flags

`slots` names the flags as a unit's document does, in the order of their numbers. It is a second
account of the numbering: `flag` reads the parts of a unit, the document is read by name, and
`shown?_slot` says that the two agree at each of the 32 places. Attributes are nothing but their
number and these flags (`ext_flag`).
-/

namespace PileCheck.Ccu

/-- The part and the flag that each number stands for. -/
def slots : List (String × String) :=
  let contactor (part : String) : List (String × String) := [(part, "refuse"), (part, "stuck")]
  let fan (part : String) : List (String × String) := [(part, "stopped"), (part, "rotating")]
  let gun (part : String) : List (String × String) :=
    [(part, "positive_contactor_refuse"), (part, "positive_contactor_stuck"),
      (part, "negative_contactor_refuse"), (part, "negative_contactor_stuck"),
      (part, "unlocked"), (part, "locked"), (part, "aux_power_12v"), (part, "aux_power_24v")]
  contactor "ac_contactor_1" ++ contactor "ac_contactor_2" ++
    [("parallel_contactor", "positive_refuse"), ("parallel_contactor", "positive_stuck"),
      ("parallel_contactor", "negative_refuse"), ("parallel_contactor", "negative_stuck")] ++
    fan "fan_1" ++ fan "fan_2" ++ fan "fan_3" ++ fan "fan_4" ++ gun "gun_a" ++ gun "gun_b"

/-- There is one for each number. -/
example : slots.length = flagCount := rfl

namespace Attributes

variable {a b : Attributes}

/-- What the document of a unit shows under the name of a part and of a flag in it. -/
def shown? (a : Attributes) (slot : String × String) : Option Json :=
  (a.json.member? slot.1).bind (·.member? slot.2)

/-- The document shows each flag under its name. Slot by slot. -/
theorem shown?_slot (a : Attributes) {i : Nat} {slot : String × String}
    (h : slots[i]? = some slot) : a.shown? slot = some (.bool (a.flag i)) := by
  match i, h with
  | 0, h | 1, h | 2, h | 3, h | 4, h | 5, h | 6, h | 7, h | 8, h | 9, h | 10, h | 11, h
  | 12, h | 13, h | 14, h | 15, h | 16, h | 17, h | 18, h | 19, h | 20, h | 21, h | 22, h
  | 23, h | 24, h | 25, h | 26, h | 27, h | 28, h | 29, h | 30, h | 31, h =>
    obtain rfl := Option.some.inj h
    simp [shown?, json, Contactor.json, ContactorPair.json, Fan.json, Gun.json,
      Json.member?_ofMembers, Json.lookup_cons, flag]
  | n + 32, h => exact absurd h (by simp [slots])

/-- A unit of which nothing is known but its number has every flag clear. -/
theorem flag_clear (index : Option Nat) (i : Nat) : ({ index } : Attributes).flag i = false := by
  unfold flag
  split <;> rfl

/-- Attributes with the same number and the same flags are the same. -/
theorem ext_flag (hindex : a.index = b.index) (h : ∀ i < flagCount, a.flag i = b.flag i) :
    a = b := by
  rw [← ofFlags_flag a, ← ofFlags_flag b, hindex]
  simp (disch := decide) only [ofFlags, Contactor.ofFlags, ContactorPair.ofFlags, Fan.ofFlags,
    Gun.ofFlags, h]

end Attributes
end PileCheck.Ccu
