import SignOn.Text.Split

/-!
# Users

The records a login reads and proposes: users with their group memberships, and
the bindings of Kerberos principals to users.
-/

set_option autoImplicit false

namespace SignOn

/-- Identifier of a user record, by its text. -/
structure UserId where
  text : String
deriving Repr, DecidableEq, Inhabited

namespace UserId

/-- Places of the hyphens in the hyphenated form of an identifier. -/
def hyphenPlaces : List Nat := [8, 13, 18, 23]

/-- Hexadecimal digits in the hyphenated form, letters in lower case. -/
def hyphenated (digits : List Char) : String :=
  let part := fun start count => String.ofList ((digits.drop start).take count |>.map Text.lowerChar)
  Text.joined "-" [part 0 8, part 8 4, part 12 4, part 16 4, part 20 12]

/-- Digits of an identifier written without hyphens or with them. -/
def digits? (cs : List Char) : Option (List Char) :=
  let plain :=
    if cs.length = 36 ∧ hyphenPlaces.all fun i => cs[i]? = some '-' then cs.filter (· ≠ '-') else cs
  if plain.length = 32 ∧ plain.all fun c => (Text.hexValue? c).isSome then some plain else none

/-- How the name of an identifier starts, in lower case. -/
def nameHead : List Char := "urn:uuid:".toList

/-- The hyphenated form inside braces or after `urn:uuid:` in any letter case. -/
def wrapped? (cs : List Char) : Option (List Char) :=
  if (cs.take nameHead.length).map Text.lowerChar = nameHead then some (cs.drop nameHead.length)
  else Text.dropHead? ['{'] cs >>= Text.dropTail? ['}']

/-- The identifier with 128 bits written in hexadecimal: with hyphens or
without, in braces, or after `urn:uuid:`. -/
def ofUuid? (text : String) : Option UserId :=
  let cs := text.toList
  let bare := ((wrapped? cs).filter fun inner => inner.length = 36).getD cs
  (digits? bare).map fun digits => ⟨hyphenated digits⟩

/-- The identifier whose bits are all zero. -/
def nil : UserId := ⟨"00000000-0000-0000-0000-000000000000"⟩

end UserId

/-- Group memberships of a user as the last login reported them. -/
structure GroupSet where
  /-- `none` when the membership is unknown. -/
  names : Option (List String)
deriving Repr, DecidableEq, Inhabited

namespace GroupSet

/-- Key under which memberships are kept in a serialized record. -/
def sourceKey : String := "fas_groups"

/-- Known names; an unknown membership has none. -/
def toList (groups : GroupSet) : List String :=
  groups.names.getD []

/-- Membership in `group`. -/
def contains (groups : GroupSet) (group : String) : Bool :=
  groups.toList.any (· = group)

theorem contains_iff (groups : GroupSet) (group : String) :
    groups.contains group = true ↔ group ∈ groups.toList := by
  simp [contains]

end GroupSet

/-- A user record. -/
structure User where
  id : UserId
  name : String
  mail : String
  timezone : Option String
  admin : Bool
  groups : Option GroupSet
  /-- Time of the last save, in seconds since 1970. -/
  updatedAt : Int
deriving Repr, DecidableEq, Inhabited

namespace User

/-- Role named in the record of a login. -/
def role (user : User) : String :=
  if user.admin then "Admin" else "User"

/-- Whether the last login reported membership in `group`. -/
def canBuildIn (user : User) (group : String) : Bool :=
  user.groups.any (·.contains group)

/-- Names of the groups, when the membership is known. -/
def groupNames (user : User) : Option (List String) :=
  user.groups.bind (·.names)

end User

/-- What is known of a user before its record exists. -/
structure NewUser where
  name : String
  mail : String
  timezone : Option String
deriving Repr, DecidableEq

/-- A Kerberos principal bound to a user. -/
structure Binding where
  principal : String
  user : UserId
deriving Repr, DecidableEq

/-- What the outside world supplies to one call: an identifier for a user the
call may create, and the time. -/
structure Moment where
  id : UserId
  time : Int
deriving Repr, DecidableEq

end SignOn
