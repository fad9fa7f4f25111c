import SignOn.Unicode.Letters

/-!
# Usernames

A username is a non-empty text of letters, numerals, underscores, dashes and
dots. `Username.ofPrincipal?` reads one from a Kerberos principal, of which it
drops the realm.
-/

set_option autoImplicit false

namespace SignOn.Username

/-- Whether `c` may stand in a username. -/
def isChar (c : Char) : Bool :=
  Unicode.isAlphanumeric c || c = '_' || c = '-' || c = '.'

/-- Whether `name` is a username. -/
def isValid (name : String) : Bool :=
  name.toList ≠ [] && name.toList.all isChar

/-- The part of a principal before its realm. -/
def withoutRealm (principal : List Char) : List Char :=
  principal.takeWhile (· ≠ '@')

/-- The username of a principal `user@realm` or `user/instance@realm`. -/
def ofPrincipal? (principal : String) : Option String :=
  let name := String.ofList ((withoutRealm principal.toList).map fun c => if c = '/' then '_' else c)
  if isValid name then some name else none

end SignOn.Username
