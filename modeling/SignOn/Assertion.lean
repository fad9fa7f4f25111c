import SignOn.Fault
import SignOn.Event
import SignOn.Table
import SignOn.Text.Blank
import SignOn.Text.Quoted

/-!
# Assertions

The parameters with which the OpenID provider sends a browser back, and the
claims a positive assertion makes. A claim of an extension counts only when the
list of signed fields, if there is one, names it.
-/

set_option autoImplicit false

namespace SignOn

/-- Claims of one federated login. -/
structure Claims where
  identityUrl : String
  email : Option String
  timezone : Option String
  /-- Team names, `none` when the provider sent no teams. -/
  teams : Option (List String)
deriving Repr, DecidableEq

namespace Assertion

open SignOn.Text

/-- Parameters by name. -/
abbrev Params : Type := Table String String

/-- Namespace of OpenID 2.0. -/
def openIdNamespace : String := "http://specs.openid.net/auth/2.0"

/-- Identity that asks the provider to pick one. -/
def identifierSelect : String := "http://specs.openid.net/auth/2.0/identifier_select"

/-- Namespace of the extension that carries e-mail and timezone. -/
def registrationNamespace : String := "http://openid.net/extensions/sreg/1.1"

/-- Namespace of the extension that carries teams. -/
def teamsNamespace : String := "http://ns.launchpad.net/2007/openid-teams"

/-- Usual alias of the extension that carries e-mail and timezone. -/
def registrationAlias : String := "sreg"

/-- Usual alias of the extension that carries teams. -/
def teamsAlias : String := "lp"

/-- Claims asked for besides teams. -/
def requestedClaims : List String := ["email", "timezone"]

/-- The query that asks for every team. -/
def allGroupsQuery : String := "_FAS_ALL_GROUPS_"

/-- Head of the parameters that declare an alias. -/
def aliasHead : String := "openid.ns."

/-- The alias an entry declares for `ns`, if it declares one. -/
def declared? (ns : String) (entry : String × String) : Option String :=
  if entry.2 = ns then (dropHead? aliasHead.toList entry.1.toList).map String.ofList else none

/-- The alias of the extension `ns`: the one declared first, or `usual`. -/
def aliasOf (params : Params) (ns usual : String) : String :=
  (params.entries.findSome? (declared? ns)).getD usual

/-- Names in the list of signed fields, `none` without a list. -/
def signedFields? (params : Params) : Option (List String) :=
  (params.get? "openid.signed").map fun list => (pieces ',' list).map trim

/-- Whether a field counts: it is signed, or nothing says which fields are. -/
def isBelieved (params : Params) (field : String) : Bool :=
  (signedFields? params).all fun signed => field ∈ signed

/-- The field of an extension. -/
def fieldName (name field : String) : String :=
  name ++ "." ++ field

/-- The value of a field of an extension; only a list of teams may be empty. -/
def extensionValue? (params : Params) (name field : String) : Option String :=
  if isBelieved params (fieldName name field) then
    (params.get? ("openid." ++ fieldName name field)).filter fun value =>
      value ≠ "" || field = "is_member"
  else none

/-- The names in a list of teams. -/
def teamNames (list : String) : List String :=
  ((pieces ',' list).map trim).filter (· ≠ "")

/-- The identity an assertion is about. -/
def identity? (params : Params) : Option String :=
  ((params.get? "openid.claimed_id") <|> (params.get? "openid.identity")).filter (· ≠ "")

/-- Succeeds when the mode is that of a positive assertion. -/
def checkMode (params : Params) : Except Fault Unit :=
  match params.get? "openid.mode" with
  | some "id_res" => .ok ()
  | some "cancel" => .error .loginCancelled
  | some "error" =>
    .error (.openId ((params.get? "openid.error").getD "provider reported an error"))
  | other => .error (.openId ("unexpected openid.mode " ++ Quoted.optional Quoted.encode other))

/-- Alias of the extension that carries e-mail and timezone. -/
def registration (params : Params) : String :=
  aliasOf params registrationNamespace registrationAlias

/-- Alias of the extension that carries teams. -/
def teams (params : Params) : String :=
  aliasOf params teamsNamespace teamsAlias

/-- The claims made about `identity`. -/
def claimsOf (params : Params) (identity : String) : Claims :=
  { identityUrl := identity
    email := extensionValue? params (registration params) "email"
    timezone := extensionValue? params (registration params) "timezone"
    teams := (extensionValue? params (teams params) "is_member").map teamNames }

/-- The claims of a positive assertion. Its signature is not looked at. -/
def parse (params : Params) : Except Fault Claims := do
  checkMode params
  match identity? params with
  | none => .error (.openId "assertion carries no identity")
  | some identity => .ok (claimsOf params identity)

/-- Fields of extensions that are asked for, in the order they are looked up. -/
def lookedUp (params : Params) : List String :=
  [fieldName (teams params) "is_member", fieldName (registration params) "email",
    fieldName (registration params) "timezone"]

/-- What the reading of an assertion leaves in the log. -/
def events (params : Params) : List Event :=
  match parse params with
  | .error _ => []
  | .ok _ =>
    ((lookedUp params).filter fun field => !isBelieved params field).map .unsignedFieldIgnored

end Assertion

end SignOn
