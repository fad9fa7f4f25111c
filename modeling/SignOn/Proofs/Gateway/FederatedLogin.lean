import SignOn.Proofs.Gateway.Session

/-!
# What a federated login does

`FederatedLogin` lists the ways in which a federated login can end in a
well-formed store, each with its answer, the store and the session it leaves.
`completeFederated_apply` says that the gateway takes one of them and changes
nothing else but the log; `FederatedLogin.wellFormed`, `FederatedLogin.grows` and
`FederatedLogin.named` say what all of them keep of the store.
-/

set_option autoImplicit false

namespace SignOn.Gateway

open SignOn.Provisioner

/-! ## Saving a login -/

/-- The record of a user whose login brought `groups`. -/
def settledRecord (time : Int) (groups : GroupSet) (user : User) : User :=
  { user with groups := some groups, updatedAt := time }

/-- A login of a stored user is saved under the name the user has, and marks the
session. -/
theorem settle_apply (moment : Moment) (kind : MechanismKind) {user old : User}
    (groups : GroupSet) (marker : User → String) {context : Context Store}
    (hold : context.store.users.get? user.id = some old) (hname : old.name = user.name) :
    ∃ events, settle moment kind user groups marker context =
      (.ok (settledRecord moment.time groups user),
        (((context.withStore
            (context.store.replace (settledRecord moment.time groups user))).withSession
          (context.session.put kind.sessionKey
            (marker (settledRecord moment.time groups user)))).logging events)) := by
  have hsave : UserStore.save moment.time { user with groups := some groups } context.store =
      (.ok (settledRecord moment.time groups user),
        context.store.replace (settledRecord moment.time groups user)) :=
    Store.save_eq_replace hold hname
  refine ⟨[.loggedIn user.name user.role], ?_⟩
  rw [settle, Call.bind_of_ok (Call.onStore_of_ok hsave)]
  rfl

/-! ## The user behind claims -/

/-- The fault of a first login that tells no e-mail. -/
def noMail (username : String) : Fault :=
  .validation ("identity provider sent no e-mail for new user '" ++ username ++ "'")

/-- The fault of a login by a user who is not on the list. -/
def notAllowed (username : String) : Fault :=
  .accessRestricted ("User '" ++ username ++ "' is not allowed")

/-- A user with a free name is created. -/
theorem create_apply (moment : Moment) (new : NewUser) (context : Context Store)
    (hname : context.store.names.get? new.name = none) :
    Provisioner.create moment new context =
      (.ok (Store.newRecord moment new),
        (context.withStore (context.store.insert moment new)).logging
          [.userInserted moment.id]) := by
  have hcreate : UserStore.create moment new context.store =
      (.ok (Store.newRecord moment new), context.store.insert moment new) :=
    Store.create_eq_insert hname
  rw [Provisioner.create, Call.bind_of_ok (Call.onStore_of_ok hcreate)]
  rfl

section OfClaims

variable {provisioner : Provisioner} {claims : Claims} {context : Context Store}
  (moment : Moment) (earlier : List Event)

/-- A known identity is found by its name. -/
theorem ofClaims_of_known {user : User}
    (hfound : context.store.userNamed? (provisioner.nameOf claims.identityUrl) = some user) :
    ∃ events, provisioner.ofClaims moment claims (context.logging earlier) =
      (.ok (withClaims claims user), (context.withStore context.store).logging events) := by
  refine ⟨earlier ++ provisioner.nameEvents claims.identityUrl, ?_⟩
  simp [ofClaims, Call.bind_apply, hfound]

/-- An unknown identity without an e-mail is refused. -/
theorem ofClaims_of_mailless
    (hfound : context.store.userNamed? (provisioner.nameOf claims.identityUrl) = none)
    (hmail : claims.email = none) :
    ∃ events, provisioner.ofClaims moment claims (context.logging earlier) =
      (.error (noMail (provisioner.nameOf claims.identityUrl)), context.logging events) := by
  refine ⟨earlier ++ (provisioner.nameEvents claims.identityUrl ++
    [.firstFederatedLogin (provisioner.nameOf claims.identityUrl)]), ?_⟩
  simp [ofClaims, createFederated, noMail, Call.bind_apply, hfound, hmail]

/-- An unknown identity with an e-mail gets a record. -/
theorem ofClaims_of_new (h : context.store.WellFormed) {mail : String} {new : NewUser}
    (hfound : context.store.userNamed? (provisioner.nameOf claims.identityUrl) = none)
    (hmail : claims.email = some mail)
    (hnew : new = ⟨provisioner.nameOf claims.identityUrl, mail, claims.timezone⟩) :
    ∃ events, provisioner.ofClaims moment claims (context.logging earlier) =
      (.ok (withClaims claims (Store.newRecord moment new)),
        (context.withStore (context.store.insert moment new)).logging events) := by
  subst hnew
  have hcreate := create_apply moment
    ⟨provisioner.nameOf claims.identityUrl, mail, claims.timezone⟩
    (context.logging (earlier ++ (provisioner.nameEvents claims.identityUrl ++
      [.firstFederatedLogin (provisioner.nameOf claims.identityUrl)])))
    ((Store.userNamed?_eq_none_iff h).mp hfound)
  refine ⟨earlier ++ (provisioner.nameEvents claims.identityUrl ++
    ([.firstFederatedLogin (provisioner.nameOf claims.identityUrl)] ++
      [.userInserted moment.id])), ?_⟩
  simp [ofClaims, createFederated, Call.bind_apply, hfound, hmail, hcreate]

end OfClaims

/-! ## Ways a federated login ends -/

/-- The name that claims are made about. -/
abbrev claimedName (gateway : Gateway) (claims : Claims) : String :=
  gateway.provisioner.nameOf claims.identityUrl

/-- The record that a federated login leaves of a user. -/
def federatedRecord (moment : Moment) (claims : Claims) (user : User) : User :=
  settledRecord moment.time ⟨claims.teams⟩ (withClaims claims user)

/-- The session with the marker of a federated login. -/
def federatedSession (claims : Claims) (session : Session) : Session :=
  session.put MechanismKind.federated.sessionKey claims.identityUrl

/-- A session is marked with the claimed name of a federated login. -/
theorem sessionName?_federatedSession {settings : Settings}
    {directory : Option Directory.Client} {gateway : Gateway}
    (h : ofSettings settings directory = .ok gateway) {claims : Claims}
    (hon : gateway.isEnabled .federated = true) (hidentity : claims.identityUrl ≠ "")
    (session : Session) :
    gateway.sessionName? (federatedSession claims session) =
      some (gateway.claimedName claims) := by
  rw [sessionName?, federatedSession, marker?_put_federated h hon session hidentity]
  rfl

/-- Ways a federated login ends, with its answer and the store and the session it
leaves. -/
inductive FederatedLogin (gateway : Gateway) (moment : Moment) (claims : Claims) (store : Store)
    (session : Session) : Except Fault User → Store → Session → Prop
  /-- The name is not on the list of allowed users. -/
  | refused (hrefused : gateway.provisioner.isAllowed (gateway.claimedName claims) = false) :
      FederatedLogin gateway moment claims store session
        (.error (notAllowed (gateway.claimedName claims))) store session
  /-- Federated login is off. -/
  | off (hallowed : gateway.provisioner.isAllowed (gateway.claimedName claims) = true)
      (hoff : gateway.isEnabled .federated = false) :
      FederatedLogin gateway moment claims store session (.error .noMechanism) store session
  /-- The user is new and has no e-mail. -/
  | mailless (hallowed : gateway.provisioner.isAllowed (gateway.claimedName claims) = true)
      (hon : gateway.isEnabled .federated = true)
      (hunknown : store.userNamed? (gateway.claimedName claims) = none)
      (hmail : claims.email = none) :
      FederatedLogin gateway moment claims store session
        (.error (noMail (gateway.claimedName claims))) store session
  /-- The user is known. -/
  | known {user : User}
      (hallowed : gateway.provisioner.isAllowed (gateway.claimedName claims) = true)
      (hon : gateway.isEnabled .federated = true)
      (hfound : store.userNamed? (gateway.claimedName claims) = some user) :
      FederatedLogin gateway moment claims store session
        (.ok (federatedRecord moment claims user))
        (store.replace (federatedRecord moment claims user)) (federatedSession claims session)
  /-- The user is new. -/
  | new {mail : String} {user : NewUser}
      (hallowed : gateway.provisioner.isAllowed (gateway.claimedName claims) = true)
      (hon : gateway.isEnabled .federated = true)
      (hunknown : store.userNamed? (gateway.claimedName claims) = none)
      (hmail : claims.email = some mail)
      (huser : user = ⟨gateway.claimedName claims, mail, claims.timezone⟩) :
      FederatedLogin gateway moment claims store session
        (.ok (federatedRecord moment claims (Store.newRecord moment user)))
        ((store.insert moment user).replace
          (federatedRecord moment claims (Store.newRecord moment user)))
        (federatedSession claims session)

section Completing

variable {gateway : Gateway} {moment : Moment} {claims : Claims} {context : Context Store}

/-- An allowed login with claims goes to the user behind the claims. -/
theorem completeFederated_of_allowed
    (hallowed : gateway.provisioner.isAllowed (gateway.claimedName claims) = true)
    (hon : gateway.isEnabled .federated = true) :
    gateway.completeFederated moment claims context =
      (gateway.provisioner.ofClaims moment claims >>= fun user =>
        settle moment .federated user ⟨claims.teams⟩ fun _ => claims.identityUrl)
        (context.logging (gateway.provisioner.nameEvents claims.identityUrl)) := by
  simp only [completeFederated, hallowed, userBehind, hon]
  rfl

/-- The user found or created for claims is settled under its name. -/
theorem settle_found {user : User} {store : Store} {events : List Event} {start : Context Store}
    (huser : gateway.provisioner.ofClaims moment claims start =
      (.ok (withClaims claims user), (context.withStore store).logging events))
    (hold : store.users.get? user.id = some user) :
    ∃ more, (gateway.provisioner.ofClaims moment claims >>= fun user =>
        settle moment .federated user ⟨claims.teams⟩ fun _ => claims.identityUrl) start =
      (.ok (federatedRecord moment claims user),
        ((context.withStore (store.replace (federatedRecord moment claims user))).withSession
          (federatedSession claims context.session)).logging more) := by
  have hstored : ((context.withStore store).logging events).store.users.get?
      (withClaims claims user).id = some user := hold
  obtain ⟨later, hsettle⟩ := settle_apply moment .federated ⟨claims.teams⟩
    (fun _ => claims.identityUrl) hstored rfl
  refine ⟨events ++ later, ?_⟩
  rw [Call.bind_of_ok huser, hsettle]
  simp [federatedRecord, federatedSession]

/-- In a well-formed store a federated login ends in one of the listed ways. -/
theorem completeFederated_apply (gateway : Gateway) (moment : Moment) (claims : Claims)
    {context : Context Store} (h : context.store.WellFormed) :
    ∃ outcome store session events,
      FederatedLogin gateway moment claims context.store context.session outcome store session ∧
        gateway.completeFederated moment claims context =
          (outcome, ((context.withStore store).withSession session).logging events) := by
  -- the list of allowed users is asked before the mechanisms, and both before the store
  cases hallowed : gateway.provisioner.isAllowed (gateway.claimedName claims) with
  | false =>
      refine ⟨_, _, _, gateway.provisioner.nameEvents claims.identityUrl ++
        [.loginRefused (gateway.claimedName claims)], .refused hallowed, ?_⟩
      simp [completeFederated, Call.bind_apply, hallowed, notAllowed]
  | true =>
      cases hon : gateway.isEnabled .federated with
      | false =>
          refine ⟨_, _, _, gateway.provisioner.nameEvents claims.identityUrl,
            .off hallowed hon, ?_⟩
          simp [completeFederated, Call.bind_apply, hallowed, userBehind, hon, Option.filter]
      | true =>
          rw [completeFederated_of_allowed hallowed hon]
          cases hfound : context.store.userNamed? (gateway.claimedName claims) with
          | some user =>
              obtain ⟨events, huser⟩ := ofClaims_of_known moment
                (gateway.provisioner.nameEvents claims.identityUrl) hfound
              obtain ⟨more, hdone⟩ := settle_found huser
                ((Store.userNamed?_eq_some_iff h).mp hfound).1
              exact ⟨_, _, _, more, .known hallowed hon hfound, hdone⟩
          | none =>
              cases hmail : claims.email with
              | none =>
                  obtain ⟨events, huser⟩ := ofClaims_of_mailless moment
                    (gateway.provisioner.nameEvents claims.identityUrl) hfound hmail
                  exact ⟨_, _, _, events, .mailless hallowed hon hfound hmail,
                    Call.bind_of_error huser⟩
              | some mail =>
                  obtain ⟨events, huser⟩ := ofClaims_of_new moment
                    (gateway.provisioner.nameEvents claims.identityUrl) h hfound hmail rfl
                  obtain ⟨more, hdone⟩ := settle_found huser Store.users_get?_insert_self
                  exact ⟨_, _, _, more, .new hallowed hon hfound hmail rfl, hdone⟩

end Completing

/-! ## What every federated login keeps -/

/-- The name of a user who may log in is not empty. -/
theorem ne_empty_of_isAllowed {provisioner : Provisioner} {username : String}
    (h : provisioner.isAllowed username = true) : username ≠ "" := by
  intro he
  subst he
  simp [isAllowed] at h

/-- An empty identity URL names nobody. -/
theorem nameOf_empty (provisioner : Provisioner) : provisioner.nameOf "" = "" := rfl

namespace FederatedLogin

variable {gateway : Gateway} {moment : Moment} {claims : Claims} {store after : Store}
  {session left : Session} {outcome : Except Fault User} {user : User}

theorem wellFormed (h : FederatedLogin gateway moment claims store session outcome after left)
    (hstore : store.WellFormed) (hfresh : store.users.get? moment.id = none) :
    after.WellFormed := by
  cases h with
  | refused | off | mailless => exact hstore
  | known _ _ hfound =>
      obtain ⟨hold, -⟩ := (Store.userNamed?_eq_some_iff hstore).mp hfound
      exact Store.wellFormed_replace hstore hold rfl
  -- the record is inserted first and then replaced by the one with its groups
  | new _ _ hunknown _ huser =>
      subst huser
      have hfree := (Store.userNamed?_eq_none_iff hstore).mp hunknown
      exact Store.wellFormed_replace (Store.wellFormed_insert hstore hfresh hfree)
        Store.users_get?_insert_self rfl

theorem grows (h : FederatedLogin gateway moment claims store session outcome after left)
    (hstore : store.WellFormed) : Store.Grows store after := by
  cases h with
  | refused | off | mailless => exact Store.Grows.refl store
  | known => exact Store.grows_replace
  | new _ _ hunknown _ huser =>
      subst huser
      have hfree := (Store.userNamed?_eq_none_iff hstore).mp hunknown
      exact (Store.grows_insert hfree).trans Store.grows_replace

theorem named (h : FederatedLogin gateway moment claims store session outcome after left)
    (hstore : store.WellFormed) (hnamed : store.Named) : after.Named := by
  cases h with
  | refused | off | mailless => exact hnamed
  | known _ _ hfound =>
      obtain ⟨hold, -⟩ := (Store.userNamed?_eq_some_iff hstore).mp hfound
      have hname := hnamed _ _ hold
      exact Store.named_replace hnamed hname
  | new hallowed _ _ _ huser =>
      subst huser
      have hname := ne_empty_of_isAllowed hallowed
      exact Store.named_replace (Store.named_insert hnamed hname) hname

/-- A failed login leaves the store and the session as they were. -/
theorem unchanged_of_error {fault : Fault}
    (h : FederatedLogin gateway moment claims store session (.error fault) after left) :
    after = store ∧ left = session := by
  cases h with
  | refused | off | mailless => exact ⟨rfl, rfl⟩

/-- A login that succeeds goes to the user of the claimed name and marks the
session with the identity. -/
theorem of_ok (h : FederatedLogin gateway moment claims store session (.ok user) after left)
    (hstore : store.WellFormed) :
    gateway.isEnabled .federated = true ∧ claims.identityUrl ≠ "" ∧
      after.names.get? (gateway.claimedName claims) = some user.id ∧
      left = federatedSession claims session := by
  -- an empty identity has the empty name, which nobody is allowed to have
  have hidentity (hallowed : gateway.provisioner.isAllowed (gateway.claimedName claims) = true) :
      claims.identityUrl ≠ "" := by
    intro he
    apply ne_empty_of_isAllowed hallowed
    rw [claimedName, he, nameOf_empty]
  cases h with
  | known hallowed hon hfound =>
      have hid := Store.names_get?_of_userNamed? hstore hfound
      exact ⟨hon, hidentity hallowed, hid, rfl⟩
  | new hallowed hon _ _ huser =>
      subst huser
      exact ⟨hon, hidentity hallowed, Table.get?_put_self .., rfl⟩

end FederatedLogin

end SignOn.Gateway
