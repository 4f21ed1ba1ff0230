/-!
# Name and version

What the program calls itself.
-/

namespace Dealias.Version

/-- The name of the program. -/
def name : String := "fix_paths"

/-- The version of the program. -/
def number : String := "0.3.0"

end Dealias.Version
