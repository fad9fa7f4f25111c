import SignOn.Table

/-!
# Environment

The variables a program is started with. Variables can be added to them, and
one that is there already keeps its value.
-/

set_option autoImplicit false

namespace SignOn

/-- Variables with their values. -/
abbrev Environment := Table String String

namespace Environment

/-- The value of a variable; one that is not set counts as empty. -/
def valueOf (environment : Environment) (name : String) : String :=
  (environment.get? name).getD ""

/-- The environment with a variable that it may have already. -/
def addMissing (environment : Environment) (name value : String) : Environment :=
  if environment.contains name then environment else environment.put name value

end Environment

end SignOn
