import SignOn.Proofs.Gateway.FederatedLogin

/-!
# A federated login happens as a whole or not at all

`Refused` lists the faults of a federated login with what leads to each of them;
nothing else makes one fail (`FederatedLogin.error_iff`), so the record a login
creates is never left without its groups. `Admitted` says what a login leaves
when it succeeds: the record of its user under the claimed name, and a session
that is logged in as this user. `completeFederated_atomic` puts the two together.
-/

set_option autoImplicit false

namespace SignOn.Gateway

/-! ## Faults of a federated login -/

/-- Faults of a federated login, in the order in which their reasons count. -/
inductive Refused (gateway : Gateway) (claims : Claims) (store : Store) : Fault → Prop
  /-- The name is empty or not on the list of allowed users. -/
  | unlisted (hout : gateway.provisioner.isAllowed (gateway.claimedName claims) = false) :
      Refused gateway claims store (notAllowed (gateway.claimedName claims))
  /-- Federated login is off. -/
  | off (hallowed : gateway.provisioner.isAllowed (gateway.claimedName claims) = true)
      (hoff : gateway.isEnabled .federated = false) : Refused gateway claims store .noMechanism
  /-- A user without a record has no e-mail either. -/
  | mailless (hallowed : gateway.provisioner.isAllowed (gateway.claimedName claims) = true)
      (hon : gateway.isEnabled .federated = true)
      (hunknown : store.userNamed? (gateway.claimedName claims) = none)
      (hmail : claims.email = none) :
      Refused gateway claims store (noMail (gateway.claimedName claims))

/-- What a federated login of `user` leaves when it succeeds. -/
structure Admitted (gateway : Gateway) (claims : Claims) (before after : Context Store)
    (user : User) : Prop where
  enabled : gateway.isEnabled .federated = true
  named : gateway.claimedName claims ≠ ""
  allowed : gateway.provisioner.isAllowed (gateway.claimedName claims) = true
  name_eq : user.name = gateway.claimedName claims
  byName : after.store.userNamed? (gateway.claimedName claims) = some user
  byId : after.store.users.get? user.id = some user
  /-- The marker of the login is all that changes in the session. -/
  session : after.session =
    before.session.put MechanismKind.federated.sessionKey claims.identityUrl
  current : (gateway.currentUser after).1 = .ok (some user)

namespace FederatedLogin

variable {gateway : Gateway} {moment : Moment} {claims : Claims} {store after : Store}
  {session left : Session} {outcome : Except Fault User} {user : User}

/-- A federated login fails for the listed reasons and for no other. -/
theorem error_iff (h : FederatedLogin gateway moment claims store session outcome after left)
    (fault : Fault) : outcome = .error fault ↔ gateway.Refused claims store fault := by
  constructor
  · rintro rfl
    cases h with
    | refused hout => exact .unlisted hout
    | off hallowed hoff => exact .off hallowed hoff
    | mailless hallowed hon hunknown hmail => exact .mailless hallowed hon hunknown hmail
  -- each reason rules the later ways out, and the order of the reasons the earlier ones
  · intro hrefused
    cases hrefused with
    | unlisted hout => cases h <;> simp_all
    | off hallowed hoff => cases h <;> simp_all
    | mailless hallowed hon hunknown hmail => cases h <;> simp_all

/-- The user of a login that succeeds was allowed, has the claimed name and is
stored as the login answers. -/
theorem stored_of_ok
    (h : FederatedLogin gateway moment claims store session (.ok user) after left)
    (hstore : store.WellFormed) :
    gateway.provisioner.isAllowed (gateway.claimedName claims) = true ∧
      user.name = gateway.claimedName claims ∧ after.users.get? user.id = some user := by
  cases h with
  | known hallowed _ hfound =>
      obtain ⟨-, hname⟩ := (Store.userNamed?_eq_some_iff hstore).mp hfound
      exact ⟨hallowed, hname, Table.get?_put_self ..⟩
  | new hallowed _ _ _ huser =>
      subst huser
      exact ⟨hallowed, rfl, Table.get?_put_self ..⟩

end FederatedLogin

/-! ## The login and its session -/

/-- A federated login either fails for a listed reason and changes neither the store nor
the session, or leaves its user stored and logged in; it never asks the directory. -/
theorem completeFederated_atomic {settings : Settings} {directory : Option Directory.Client}
    {gateway : Gateway} (h : ofSettings settings directory = .ok gateway) (moment : Moment)
    (claims : Claims) {context : Context Store} (hstore : context.store.WellFormed) :
    let ending := gateway.completeFederated moment claims context
    (∀ fault, ending.1 = .error fault ↔ gateway.Refused claims context.store fault) ∧
      (∀ fault, ending.1 = .error fault →
        ending.2.store = context.store ∧ ending.2.session = context.session) ∧
      (∀ user, ending.1 = .ok user → gateway.Admitted claims context ending.2 user) ∧
      ending.2.directory = context.directory ∧
      ending.2.trace.steps = context.trace.steps := by
  obtain ⟨outcome, store, session, events, hlogin, hend⟩ :=
    completeFederated_apply gateway moment claims hstore
  rw [hend]
  refine ⟨hlogin.error_iff, ?_, ?_, rfl, rfl⟩
  · rintro fault rfl
    exact hlogin.unchanged_of_error
  · rintro user rfl
    obtain ⟨hon, hidentity, hid, hsession⟩ := hlogin.of_ok hstore
    obtain ⟨hallowed, hname, hstored⟩ := hlogin.stored_of_ok hstore
    have hnamed : store.userNamed? (gateway.claimedName claims) = some user :=
      Option.bind_eq_some_iff.mpr ⟨user.id, hid, hstored⟩
    obtain ⟨later, hcurrent⟩ := gateway.currentUser_apply
      (((context.withStore store).withSession session).logging events)
    have huser : gateway.sessionUser? session store = some user := by
      rw [hsession, sessionUser?, sessionName?_federatedSession h hon hidentity, Option.bind_some,
        hnamed]
    exact {
      enabled := hon
      named := ne_empty_of_isAllowed hallowed
      allowed := hallowed
      name_eq := hname
      byName := hnamed
      byId := hstored
      session := hsession
      current := by
        rw [hcurrent]
        exact congrArg Except.ok huser }

/-- Claims of a user whom nobody knows yet. -/
def bobClaims : Claims := ⟨"http://[::1]/bob", some "bob@example.org", none, some ["qa"]⟩

/-- The record that is made of these claims. -/
def bobRecord : User :=
  { id := ⟨"2"⟩, name := "bob", mail := "bob@example.org", timezone := none, admin := false
    groups := some ⟨some ["qa"]⟩, updatedAt := 20 }

/-- Bob logs in on a session that was Jane's by her ticket, and it is his. -/
theorem completeFederated_bobClaims :
    let before := markedRequest .directory "jane"
    let ending := bothWaysGateway.completeFederated ⟨⟨"2"⟩, 20⟩ bobClaims before
    ofSettings bothWays none = .ok bothWaysGateway ∧ before.store.WellFormed ∧
      ending.1 = .ok bobRecord ∧
      bothWaysGateway.Admitted bobClaims before ending.2 bobRecord := by
  intro before ending
  have hbob : ending.1 = .ok bobRecord := rfl
  have hstore : before.store.WellFormed := wellFormed_janeStore
  obtain ⟨-, -, hadmitted, -⟩ :=
    completeFederated_atomic ofSettings_bothWays ⟨⟨"2"⟩, 20⟩ bobClaims hstore
  exact ⟨ofSettings_bothWays, hstore, hbob, hadmitted bobRecord hbob⟩

end SignOn.Gateway
