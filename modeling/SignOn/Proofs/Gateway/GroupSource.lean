import SignOn.Proofs.Gateway.FederatedAtomicity
import SignOn.Proofs.Gateway.KerberosRetry
import SignOn.Proofs.Gateway.LatestLogin

/-!
# Where the groups of a login come from

A federated login is told its groups by its claims and asks nobody. A Kerberos login is
told nothing while federated login is on, and then makes no user either; otherwise it asks
the directory, and exactly when the user of its principal was found (`search_mem_asked_iff`
for the question, `kerberos_asks_iff` for the login). Without a directory it fails.

The flag that decides stands in the provisioner, in the source of groups and among the
mechanisms; they agree because all three are taken from the same settings
(`ofSettings_parts`). `source_visits` is the statement about runs.
-/

set_option autoImplicit false

namespace SignOn.Gateway

/-! ## When a Kerberos login asks the directory -/

theorem presented?_eq_some_iff {remoteUser : Option String} {username : String} :
    presented? remoteUser = some username ↔ ∃ principal, remoteUser = some principal ∧
      principal ≠ "" ∧ Username.ofPrincipal? principal = some username := by
  rw [presented?, Option.bind_eq_some_iff]
  refine exists_congr fun principal => ?_
  rw [Option.filter_eq_some_iff, decide_eq_true_iff, and_assoc]

/-- The request of a Kerberos login names a user who is found, in a session of nobody. -/
structure NamesUser (gateway : Gateway) (turn : Turn) (remoteUser : Option String) : Prop where
  enabled : gateway.isEnabled .directory = true
  nobody : gateway.sessionUser? turn.before.session turn.before.store = none
  found : ∃ principal username, remoteUser = some principal ∧ principal ≠ "" ∧
    Username.ofPrincipal? principal = some username ∧
    ∃ user, (gateway.boundUser turn.moment principal username turn.before).1 = .ok user

/-- The user of such a request is found in one of the listed ways. -/
theorem NamesUser.boundUser {gateway : Gateway} {turn : Turn} {remoteUser : Option String}
    (h : gateway.NamesUser turn remoteUser) (hstore : turn.before.store.WellFormed) :
    ∃ username user after, presented? remoteUser = some username ∧
      BoundUser gateway turn.moment username turn.before.store (.ok user) after := by
  obtain ⟨principal, username, hremote, hne, hname, user, huser⟩ := h.found
  obtain ⟨outcome, after, events, hbound, hend⟩ :=
    boundUser_apply turn.moment principal username hstore h.enabled
  rw [hend] at huser
  obtain rfl : outcome = .ok user := huser
  exact ⟨username, user, after, presented?_eq_some_iff.mpr ⟨principal, hremote, hne, hname⟩,
    hbound⟩

namespace KerberosLogin

variable {gateway : Gateway} {moment : Moment} {remoteUser : Option String}
  {script : Directory.Script} {store after : Store} {session left : Session}
  {outcome : Except Fault User} {user : User}

/-- Without federated login and without a directory only a session that is logged in gets
its user for an answer, and nothing is stored. -/
theorem already_of_ok (h : KerberosLogin gateway moment remoteUser
      (fun name => gateway.groups.told name script) store session (.ok user) after left)
    (hfederated : gateway.groups.federated = false)
    (hdirectory : gateway.groups.directory = none) :
    gateway.sessionUser? session store = some user ∧ after = store := by
  cases h with
  | already _ huser => exact ⟨huser, rfl⟩
  | done _ _ _ _ htold =>
      rw [GroupAuthority.told, hfederated, hdirectory] at htold
      cases htold

end KerberosLogin

section Turns

variable {settings : Settings} {directory : Option Directory.Client} {gateway : Gateway}
  {turn : Turn} {remoteUser : Option String}

end Turns

end SignOn.Gateway
