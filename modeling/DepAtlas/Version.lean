/-!
# Version

The version that the service and the command line report.
-/

namespace DepAtlas

/-- The version of the program. -/
def version : String := "0.1.0"

end DepAtlas
