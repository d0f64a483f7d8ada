/-!
# Environment variables
-/

namespace ServiceCatalog

/-- The variables of the environment with their values. -/
structure Environment where
  entries : List (String × String)
deriving Repr

namespace Environment

/-- The value of a variable, if it is set. -/
def get? (env : Environment) (name : String) : Option String := env.entries.lookup name

/-- The home directory, if there is one. -/
def home? (env : Environment) : Option String := (env.get? "HOME").filter (· ≠ "")

end Environment

end ServiceCatalog
