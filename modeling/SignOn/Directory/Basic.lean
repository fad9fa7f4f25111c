import SignOn.Text.Split

/-!
# The directory

Entries of a directory, the one-level searches sent to it and the answers it
gives.
-/

set_option autoImplicit false

namespace SignOn.Directory

/-- One entry of a directory. -/
structure Entry where
  dn : String
  attributes : List (String × List String)
deriving Repr, DecidableEq

/-- Values of the attribute `name`; letter case does not count. -/
def Entry.values? (entry : Entry) (name : String) : Option (List String) :=
  (entry.attributes.find? fun named => Text.sameName named.1 name).map (·.2)

/-- A one-level search below `base`. -/
structure Search where
  base : String
  filter : String
  attributes : List String
deriving Repr, DecidableEq

/-- Answer to one search. -/
inductive Answer where
  | entries (entries : List Entry)
  /-- The directory could not be reached; the search may be repeated. -/
  | unavailable (reason : String)
  /-- The directory refused the search. -/
  | refused (reason : String)
deriving Repr, DecidableEq

/-- Answers a directory is about to give: `opening` one by one to the next
searches, whatever they ask, then a settled answer to every search. -/
structure Script where
  opening : List Answer
  settled : Search → Except String (List Entry)

/-- What is done towards one answer: a search is sent, or a pause is made. -/
inductive Step where
  | search (search : Search)
  | pause (ms : UInt64)
deriving Repr, DecidableEq

/-- Attributes asked for when a user is looked up. -/
def userAttributes : List String := ["cn", "uid", "memberOf", "mail"]

/-- Attribute that names the groups of a user. -/
def memberOf : String := "memberOf"

end SignOn.Directory
