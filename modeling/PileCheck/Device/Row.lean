import PileCheck.Device.Basic
import PileCheck.Sql.Request

/-!
The inventory's piles as rows of `equipment_info`.
-/
namespace PileCheck.Device

def pilesStatement : String :=
  "SELECT ID, StationNo, EquipNo, EquipName, EquipNameEn, Type, IPAddr, GunCount, EquipOrder "
    ++ "FROM equipment_info WHERE Type = 'PILE'"

/-- A row without an equipment number is no device. -/
def ofRow? (row : Sql.Row) : Option Device :=
  let equipNo := row.getText "EquipNo"
  if Text.trim equipNo = "" then none
  else some {
    ofType equipNo (row.getText "Type") with
    stationNo := row.getText "StationNo"
    order := row.getInt "EquipOrder" 0
    connectors := (row.getInt "GunCount" 0).toNat
    name := row.getText "EquipName" }

/-- Every pile of the inventory. -/
def piles : Sql.Request (List Device) :=
  .query pilesStatement [] true fun rows => .ok (rows.filterMap ofRow?)

end PileCheck.Device
