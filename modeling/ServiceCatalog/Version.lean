/-!
# The version

What the program calls itself, to the user and to the management service.
-/

namespace ServiceCatalog

/-- The name of the program. -/
def programName : String := "catalogctl"

/-- The version of the program. -/
def version : String := "0.3.0"

end ServiceCatalog
