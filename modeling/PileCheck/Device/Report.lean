import PileCheck.Device.Basic
import PileCheck.Json.Basic

/-!
Devices as documents.
-/
namespace PileCheck

def DeviceClass.word : DeviceClass → String
  | pile => "Pile"
  | stack => "Stack"
  | unknown => "Unknown"

def Device.json (d : Device) : Json :=
  .ofMembers [("equip_no", .text d.equipNo), ("class", .text d.kind.word),
    ("type_name", .text d.typeName), ("station_no", .text d.stationNo),
    ("connector_count", Json.nat d.connectors), ("equip_order", Json.int d.order),
    ("name", .text d.name)]

end PileCheck
