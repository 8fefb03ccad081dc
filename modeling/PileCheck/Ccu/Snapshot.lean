import PileCheck.Failure
import PileCheck.Text.Blank
import PileCheck.Ccu.Attributes

/-!
The hash in which a unit publishes its flags.

A field counts when its name has a flag number before the first `;` and its value is `1` for set or
`2` for clear, blanks around either ignored. Every other field is passed over. A hash without any
field is no snapshot.
-/
namespace PileCheck.Ccu

/-- Field names and values, in whatever order they come. -/
abbrev Hash := List (String × String)

/-- The flag number in a field's name. -/
def fieldIndex? (field : String) : Option Nat :=
  (Text.splitFirst? ';' field.toList).bind fun (before, _) =>
    (Numeral.int64? (Text.trimChars before)).bind fun i =>
      if 0 ≤ i ∧ i < flagCount then some i.toNat else none

def flagValue? (value : String) : Option Bool :=
  (Numeral.int64? (Text.trimChars value.toList)).bind fun n =>
    if n = 1 then some true else if n = 2 then some false else none

def reading? (field value : String) : Option (Nat × Bool) :=
  (fieldIndex? field).bind fun i => (flagValue? value).map fun b => (i, b)

/-- The flags that a hash carries. -/
def readings (hash : Hash) : List (Nat × Bool) := hash.filterMap fun e => reading? e.1 e.2

def indexField : String := "index"

def moduleNumber? (hash : Hash) : Option Nat :=
  (hash.lookup indexField).bind fun v => Numeral.nat32? (Text.trimChars v.toList)

structure Decoded where
  attributes : Attributes
  /-- The flags that the hash carries, ascending. -/
  seen : List Nat
  deriving DecidableEq, Repr

/-- The flags that the hash does not carry, ascending; they read as clear. -/
def Decoded.missing (d : Decoded) : List Nat :=
  (List.range flagCount).filter fun i => !d.seen.contains i

def decode (hash : Hash) : Except DecodeFailure Decoded :=
  if hash.isEmpty then .error (.notFound "CCU hash is empty")
  else
    let found := readings hash
    .ok {
      attributes := found.foldl (fun a (i, b) => a.setFlag i b) { index := moduleNumber? hash }
      seen := (List.range flagCount).filter fun i => found.any fun r => r.1 == i }

end PileCheck.Ccu
