/-!
The version that the service reports.
-/
namespace PileCheck

def version : String := "0.1.0"

end PileCheck
