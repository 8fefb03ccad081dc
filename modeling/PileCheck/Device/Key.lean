import PileCheck.Device.Basic
import PileCheck.Numeral
import PileCheck.Text.Search

/-!
Keys of the snapshot cache.

A pile keeps one hash per charge-control unit, one aggregate result and one live object. A unit's
number stands at the end of its key; `moduleIndex?` reads it back.
-/
namespace PileCheck
namespace Device

/-- The word for a device's type in its snapshot keys. -/
def typeSegment (d : Device) : String :=
  if d.kind = .unknown ∧ d.typeName ≠ "" then d.typeName else d.kind.tag

/-- What the keys of all of a device's snapshots start with. -/
def snapshotStem (d : Device) : String :=
  "selfcheck:" ++ d.typeSegment ++ "#" ++ d.equipNo ++ ":CCU#"

/-- The glob over a device's snapshot keys. -/
def snapshotPattern (d : Device) : String := d.snapshotStem ++ "*"

def snapshotKey (d : Device) (module : Nat) : String := d.snapshotStem ++ Numeral.ofNat module

def aggregateKey (d : Device) : String :=
  let segment := match d.kind with
    | .pile => "Pile"
    | .stack => "Stack"
    | .unknown => d.typeName
  "AutoCheck:Result:" ++ segment ++ ":" ++ d.equipNo

/-- The key of the live object of the pile at a place in a station. -/
def liveKey (d : Device) : String :=
  "objects:STA#" ++ d.stationNo ++ ":PILE#" ++ Numeral.ofInt d.order

end Device

namespace ModuleKey

def mark : List Char := [':', 'C', 'C', 'U', '#']

/-- The digits after the mark, for the first mark that only digits follow. -/
def finalDigits? : List Char → Option (List Char)
  | [] => none
  | c :: cs =>
    match Text.dropWord? mark (c :: cs) with
    | some ds => if !ds.isEmpty && ds.all Char.isDigit then some ds else finalDigits? cs
    | none => finalDigits? cs

/-- The module number at the end of a snapshot key. -/
def moduleIndex? (key : String) : Option Nat :=
  (finalDigits? key.toList).bind Numeral.nat32?

end ModuleKey
end PileCheck
