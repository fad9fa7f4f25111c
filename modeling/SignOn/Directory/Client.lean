import SignOn.Call
import SignOn.Directory.Filter

/-!
# The directory client

Searches below a fixed base, and the look-up of a user and of the groups the
directory names for them.
-/

set_option autoImplicit false

namespace SignOn

/-- A call whose fault, if it fails, is its answer. -/
def Call.attempt {σ α : Type} (call : Call σ α) : Call σ (Except Fault α) := fun context =>
  let (outcome, after) := call context
  (.ok outcome, after)

namespace Directory

/-- A directory searched below `base`. -/
structure Client where
  base : String
  policy : RetryPolicy
deriving Repr, DecidableEq

namespace Client

variable {σ : Type}

/-- The client of the configured directory. -/
def ofSettings? (auth : AuthSettings) : Option Client :=
  auth.ldap?.map fun (_, base) => ⟨base, auth.retry⟩

/-- The search of this client for `filter`. -/
def search (client : Client) (attributes : List String) (filter : String) : Search :=
  ⟨client.base, filter, attributes⟩

/-- Sends a search. -/
def send (client : Client) (attributes : List String) (filter : String) : Call σ (List Entry) :=
  Call.onDirectory client.policy (client.search attributes filter)

/-- The first entry that meets all criteria. -/
def findOne (client : Client) (attributes : List String) (criteria : List (String × String)) :
    Call σ Entry := do
  let filter := Filter.build criteria
  match ← client.send attributes filter with
  | entry :: _ => return entry
  | [] => Call.fail (.notFound ("no directory entry for " ++ filter))

/-- Criteria of the entry of a user. -/
def userCriteria (username : String) : List (String × String) :=
  [("objectclass", "*"), ("uid", username)]

/-- The entry of a user. -/
def user (client : Client) (username : String) : Call σ Entry :=
  client.findOne userAttributes (userCriteria username)

/-- Names of the groups in an entry; without the attribute there are none. -/
def groupDns (entry : Entry) : List String :=
  (entry.values? memberOf).getD []

/-- Names of the groups of a user, `none` for a user without an entry. -/
def userGroups (client : Client) (username : String) : Call σ (Option (List String)) := do
  match ← Call.attempt (client.user username) with
  | .ok entry => return some (groupDns entry)
  | .error (.notFound _) =>
    Call.log [.userNotInDirectory username]
    return none
  | .error fault => Call.fail fault

end Client

end Directory

end SignOn
