import SignOn.Assertion
import SignOn.Directory.Client
import SignOn.Text.Blank

/-!
# Group memberships

Exactly one source tells the groups of a login: the claims of a federated login,
nobody for a Kerberos login while federated login is on, and the directory
otherwise.
-/

set_option autoImplicit false

namespace SignOn

namespace GroupName

open SignOn.Text

/-- Whether an attribute name is `cn`, in any letter case and with blanks around. -/
def isCommonName (name : String) : Bool :=
  sameName (trim name) "cn"

/-- The value of the first `cn` among the parts of a name in the directory. -/
def ofDn? (dn : String) : Option String :=
  (((pieces ',' dn).filterMap (cut? '=')).find? fun part => isCommonName part.1).map
    fun part => trim part.2

/-- Names of the groups `dns`, without those that have no `cn`. -/
def ofDns (dns : List String) : List String :=
  dns.filterMap ofDn?

/-- The log of `ofDns`: a warning for each name without a `cn`. -/
def events (dns : List String) : List Event :=
  (dns.filter fun dn => (ofDn? dn).isNone).map .groupSkipped

end GroupName

/-- Who tells the groups of a login. -/
structure GroupAuthority where
  /-- Federated login is on. -/
  federated : Bool
  directory : Option Directory.Client
deriving Repr, DecidableEq

namespace GroupAuthority

variable {σ : Type}

/-- Groups of a user as the directory tells them. -/
def namesFrom (client : Directory.Client) (username : String) :
    Call σ (Option (List String)) := do
  match ← client.userGroups username with
  | none => return none
  | some dns =>
    Call.log (GroupName.events dns)
    Call.log [.groupsResolved username (GroupName.ofDns dns).length]
    return some (GroupName.ofDns dns)

/-- Names of the groups of a login; `none` when they are unknown. -/
def names (authority : GroupAuthority) (claims : Option Claims) (username : Option String) :
    Call σ (Option (List String)) :=
  match claims, username, authority.directory with
  | some claims, _, _ => pure claims.teams
  | none, some username, directory =>
    if authority.federated then pure none
    else
      match directory with
      | some client => namesFrom client username
      | none => Call.fail .noGroupSource
  | none, none, _ => Call.fail .noGroupSource

/-- The groups to keep on the user of a login. -/
def groups (authority : GroupAuthority) (claims : Option Claims) (username : Option String) :
    Call σ GroupSet := do
  return ⟨← authority.names claims username⟩

end GroupAuthority

end SignOn
