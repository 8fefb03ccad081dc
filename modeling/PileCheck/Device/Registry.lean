import PileCheck.Device.Basic
import PileCheck.Table

/-!
The devices at hand, by equipment number.
-/
namespace PileCheck

abbrev Registry := Table Device

namespace Registry

def add (r : Registry) (d : Device) : Registry := Table.insert r d.equipNo d

def addAll (r : Registry) (ds : List Device) : Registry := ds.foldl add r

def device? (r : Registry) (equipNo : String) : Option Device := Table.find? r equipNo

def remove (r : Registry) (equipNo : String) : Registry := Table.erase r equipNo

/-- Every device, ascending by equipment number. -/
def devices (r : Registry) : List Device := Table.values r

end Registry
end PileCheck
