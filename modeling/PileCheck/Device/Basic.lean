import PileCheck.Text.Blank
import PileCheck.Text.Letter

/-!
Charging equipment.

The inventory is kept elsewhere; a check only needs to know which device it talks to and whether
its modules publish snapshots.
-/
namespace PileCheck

inductive DeviceClass where
  | pile
  | stack
  | unknown
  deriving DecidableEq, Repr

namespace DeviceClass

/-- The upper-case name of a class, also its word in snapshot keys. -/
def tag : DeviceClass → String
  | pile => "PILE"
  | stack => "STACK"
  | unknown => "UNKNOWN"

/-- The class named by a type text, without regard to case and surrounding blanks. -/
def ofType (typeName : String) : DeviceClass :=
  let name := Text.upperAscii (Text.trim typeName)
  if name = "PILE" then pile else if name = "STACK" then stack else unknown

/-- Only piles publish module snapshots. -/
def hasSnapshots : DeviceClass → Bool
  | pile => true
  | _ => false

end DeviceClass

structure Device where
  /-- The equipment number, which no two devices share. -/
  equipNo : String
  kind : DeviceClass
  /-- The type text as the inventory has it. -/
  typeName : String
  stationNo : String := ""
  connectors : Nat := 0
  /-- Position within the station. -/
  order : Int := 0
  name : String := ""
  deriving DecidableEq, Repr

namespace Device

def ofType (equipNo typeName : String) : Device :=
  { equipNo, kind := .ofType typeName, typeName }

end Device
end PileCheck
