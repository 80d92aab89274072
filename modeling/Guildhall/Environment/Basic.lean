import Guildhall.Table

/-!
Environment variables by name.
-/

set_option autoImplicit false

namespace Guildhall

abbrev Environment := Table String String

namespace Environment

/-- The value of a variable, which is empty where it is not set. -/
def value (env : Environment) (name : String) : String := (env.get? name).getD ""

/-- Sets a variable, unless it is set already. -/
def supply (env : Environment) (name value : String) : Environment :=
  if env.contains name then env else env.insert name value

end Environment

end Guildhall
