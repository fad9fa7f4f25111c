import SignOn.Proofs.Gateway.KerberosLogin

/-!
# Who a session is logged in as after a Kerberos login

A Kerberos login marks the session with its own marker, and the federated one is
consulted first. So the login shows in the session exactly when no federated marker
is left over from a user the store does not know (`currentUser_completeKerberos`):
such a marker counts for nobody, but it hides the one that was just set.
-/

set_option autoImplicit false

namespace SignOn.Gateway

/-! ## A session with an identity -/

/-- The session is marked with an identity of nobody in the store. -/
def HasStaleIdentity (gateway : Gateway) (session : Session) (store : Store) : Prop :=
  ∃ identity, gateway.identity? session = some identity ∧
    store.userNamed? (gateway.provisioner.nameOf identity) = none

section OfSettings

variable {settings : Settings} {directory : Option Directory.Client} {gateway : Gateway}

/-- Where federated login is on, no Kerberos ticket creates a user. -/
theorem provisioner_federated (h : ofSettings settings directory = .ok gateway)
    (hon : gateway.isEnabled .federated = true) : gateway.provisioner.federated = true := by
  obtain ⟨hprovisioner, -⟩ := ofSettings_parts h
  rcases ofSettings_federated h with ⟨-, hnone⟩ | ⟨text, provider, hauth, -⟩
  -- without the setting there is no federated mechanism
  · rw [isEnabled, hnone] at hon
    cases hon
  · rw [hprovisioner]
    exact hauth

/-- A marked identity decides who the session is. -/
theorem sessionUser?_of_identity (h : ofSettings settings directory = .ok gateway)
    {session : Session} {identity : String}
    (hidentity : gateway.identity? session = some identity) (store : Store) :
    gateway.sessionUser? session store =
      store.userNamed? (gateway.provisioner.nameOf identity) := by
  rw [sessionUser?, sessionName?, marker?_of_identity h hidentity]
  rfl

end OfSettings

/-- A Kerberos login leaves the identity of its session alone. -/
theorem identity?_kerberosSession (gateway : Gateway) (user : User) (session : Session) :
    gateway.identity? (kerberosSession user session) = gateway.identity? session :=
  identity?_put_directory gateway session user.name

/-! ## Names after the login -/

namespace BoundUser

variable {gateway : Gateway} {moment : Moment} {username : String} {store after : Store}
  {outcome : Except Fault User} {user : User}

/-- While federated login is on, finding the user of a principal changes no name. -/
theorem names_eq (h : BoundUser gateway moment username store outcome after)
    (hfederated : gateway.provisioner.federated = true) : after.names = store.names := by
  cases h with
  | bound | found | unknown | domainless => rfl
  | new _ _ hoff =>
      rw [hfederated] at hoff
      cases hoff

end BoundUser

/-! ## The login and its session -/

namespace KerberosLogin

variable {settings : Settings} {directory : Option Directory.Client} {gateway : Gateway}
  {moment : Moment} {remoteUser : Option String} {told : String → Except Fault GroupSet}
  {store after : Store} {session left : Session} {user : User}

/-- A session with a stale identity stays nobody's after a login that succeeds. -/
theorem sessionUser?_of_stale (hgateway : ofSettings settings directory = .ok gateway)
    (h : KerberosLogin gateway moment remoteUser told store session (.ok user) after left)
    (hstore : store.WellFormed) (hstale : gateway.HasStaleIdentity session store) :
    gateway.sessionUser? left after = none := by
  obtain ⟨identity, hidentity, hunknown⟩ := hstale
  have hnobody : gateway.sessionUser? session store = none := by
    rw [sessionUser?_of_identity hgateway hidentity, hunknown]
  cases h with
  | already _ huser =>
      rw [hnobody] at huser
      cases huser
  | done _ _ _ hbound =>
      -- an identity counts only while federated login is on, and then no name is new
      obtain ⟨hon, -⟩ := identity?_eq_some_iff.mp hidentity
      have hnames := hbound.names_eq (provisioner_federated hgateway hon)
      have hfree := (Store.userNamed?_eq_none_iff hstore).mp hunknown
      rw [← identity?_kerberosSession gateway, kerberosSession] at hidentity
      rw [kerberosSession, sessionUser?_of_identity hgateway hidentity]
      simp [Store.userNamed?, Store.replace, hnames, hfree]

/-- Without a stale identity a login that succeeds shows in its session. -/
theorem sessionUser?_of_not_stale (hgateway : ofSettings settings directory = .ok gateway)
    (h : KerberosLogin gateway moment remoteUser told store session (.ok user) after left)
    (hstore : store.WellFormed) (hnamed : store.Named)
    (hfound : ¬ gateway.HasStaleIdentity session store) :
    gateway.sessionUser? left after = some user := by
  cases h with
  | already _ huser => exact huser
  | done hon hnobody hname hbound _ =>
      have hid := hbound.names_get? hstore
      have hne := hbound.named hnamed (ne_empty_of_presented? hname) _ _ (hbound.stored hstore)
      -- an identity of somebody would have made the session that user's
      have hnone : gateway.identity? session = none := by
        cases hidentity : gateway.identity? session with
        | none => rfl
        | some identity =>
            rw [sessionUser?_of_identity hgateway hidentity] at hnobody
            exact absurd ⟨identity, hidentity, hnobody⟩ hfound
      rw [sessionUser?, sessionName?_kerberosSession hgateway hon hnone hne, Option.bind_some]
      simp [Store.userNamed?, Store.replace, settledRecord, hid]

end KerberosLogin

/-- After a Kerberos login that succeeds the session is logged in as the user of the
answer, exactly when it was not marked with an identity of nobody; such a session
is logged in as nobody. -/
theorem currentUser_completeKerberos {settings : Settings}
    {directory : Option Directory.Client} {gateway : Gateway}
    (h : ofSettings settings directory = .ok gateway) {moment : Moment}
    {remoteUser : Option String} {context after : Context Store} {user : User}
    (hstore : context.store.WellFormed) (hnamed : context.store.Named)
    (hlogin : gateway.completeKerberos moment remoteUser context = (.ok user, after)) :
    ((gateway.currentUser after).1 = .ok (some user) ↔
        ¬ gateway.HasStaleIdentity context.session context.store) ∧
      ((gateway.currentUser after).1 = .ok none ↔
        gateway.HasStaleIdentity context.session context.store) := by
  obtain ⟨outcome, store, session, steps, left, events, hends, hend⟩ :=
    completeKerberos_apply gateway moment remoteUser hstore
  rw [hend] at hlogin
  obtain ⟨houtcome, rfl⟩ := Prod.mk.inj hlogin
  have hcurrent (found : Option User) (hfound : gateway.sessionUser? session store = found) :
      (gateway.currentUser ((((context.asking steps left).withStore store).withSession
        session).logging events)).1 = .ok found := by
    obtain ⟨more, hanswer⟩ := gateway.currentUser_apply
      ((((context.asking steps left).withStore store).withSession session).logging events)
    rw [hanswer]
    exact congrArg Except.ok hfound
  cases outcome with
  | error fault => cases houtcome
  | ok answered =>
      obtain rfl := Except.ok.inj houtcome
      by_cases hstale : gateway.HasStaleIdentity context.session context.store
      · rw [hcurrent none (hends.sessionUser?_of_stale h hstore hstale)]
        simp [hstale]
      · rw [hcurrent (some answered) (hends.sessionUser?_of_not_stale h hstore hnamed hstale)]
        simp [hstale]

/-- Jane's record after a login by her ticket. -/
def janeRecord : User :=
  { id := ⟨"1"⟩, name := "jane", mail := "jane@example.org", timezone := none, admin := false
    groups := some ⟨none⟩, updatedAt := 20 }

/-- What comes of Jane's ticket. -/
def janeTicket (before : Context Store) : Except Fault User × Context Store :=
  bothWaysGateway.completeKerberos ⟨⟨"2"⟩, 20⟩ (some "jane@EXAMPLE.ORG") before

/-- An old Kerberos marker of nobody is no obstacle to Jane. -/
theorem currentUser_janeTicket :
    let before := markedRequest .directory "ghost"
    ofSettings bothWays none = .ok bothWaysGateway ∧ before.store.WellFormed ∧
      before.store.Named ∧ (janeTicket before).1 = .ok janeRecord ∧
      (bothWaysGateway.currentUser (janeTicket before).2).1 = .ok (some janeRecord) := by
  intro before
  have hlogin : janeTicket before = (.ok janeRecord, (janeTicket before).2) := rfl
  have hfound : ¬ bothWaysGateway.HasStaleIdentity before.session before.store := by
    rintro ⟨identity, hidentity, -⟩
    have hnone : bothWaysGateway.identity? before.session = none := by decide +kernel
    rw [hnone] at hidentity
    cases hidentity
  obtain ⟨hcurrent, -⟩ := currentUser_completeKerberos ofSettings_bothWays
    wellFormed_janeStore named_janeStore hlogin
  exact ⟨ofSettings_bothWays, wellFormed_janeStore, named_janeStore, rfl, hcurrent.mpr hfound⟩

/-- With an old identity of nobody Jane's login succeeds, and she is not logged in. -/
theorem currentUser_hidden :
    let before := markedRequest .federated "http://[::1]/ghost"
    ofSettings bothWays none = .ok bothWaysGateway ∧ before.store.WellFormed ∧
      before.store.Named ∧ (janeTicket before).1 = .ok janeRecord ∧
      (bothWaysGateway.currentUser (janeTicket before).2).1 = .ok none :=
  ⟨ofSettings_bothWays, wellFormed_janeStore, named_janeStore, rfl, rfl⟩

end SignOn.Gateway
