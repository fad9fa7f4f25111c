import SignOn.Proofs.Gateway.FederatedLogin
import SignOn.Proofs.GroupAuthority
import SignOn.Proofs.Username

/-!
# What a Kerberos login does

`BoundUser` lists the ways in which the user of a principal is found, and
`KerberosLogin` those in which a Kerberos login can end in a well-formed store.
`completeKerberos_asking` says that the gateway takes one of them and changes
nothing else but the log, and asks the directory what `kerberosSteps` says;
`KerberosLogin.wellFormed`, `KerberosLogin.grows` and `KerberosLogin.named` say
what all of them keep of the store.
-/

set_option autoImplicit false

namespace SignOn.Gateway

open SignOn.Provisioner

/-! ## The user of a username -/

/-- The fault of a first Kerberos login without a domain for the e-mail. -/
def noDomain : Fault :=
  .invalidConfiguration "auth.krb5_login.email_domain is required to create users"

/-- Ways in which the question for the user of a username ends, with the store they leave. -/
inductive SoughtUser (provisioner : Provisioner) (moment : Moment) (username : String)
    (store : Store) : Except Fault User → Store → Prop
  | found {user : User} (huser : store.userNamed? username = some user) :
      SoughtUser provisioner moment username store (.ok user) store
  /-- A user comes only from the provider. -/
  | unknown (hunknown : store.userNamed? username = none)
      (hfederated : provisioner.federated = true) :
      SoughtUser provisioner moment username store
        (.error (.accessRestricted (unknownUserText username))) store
  /-- There is no domain for an e-mail. -/
  | domainless (hunknown : store.userNamed? username = none)
      (hfederated : provisioner.federated = false) (hdomain : provisioner.emailDomain = none) :
      SoughtUser provisioner moment username store (.error noDomain) store
  | new {domain : String} {user : NewUser} (hunknown : store.userNamed? username = none)
      (hfederated : provisioner.federated = false)
      (hdomain : provisioner.emailDomain = some domain)
      (huser : user = ⟨username, username ++ "@" ++ domain, none⟩) :
      SoughtUser provisioner moment username store (.ok (Store.newRecord moment user))
        (store.insert moment user)

/-- In a well-formed store the question ends in one of these ways. -/
theorem ofUsername_apply (provisioner : Provisioner) (moment : Moment) (username : String)
    {context : Context Store} (h : context.store.WellFormed) :
    ∃ outcome store events,
      SoughtUser provisioner moment username context.store outcome store ∧
        provisioner.ofUsername moment username context =
          (outcome, (context.withStore store).logging events) := by
  cases huser : context.store.userNamed? username with
  | some user =>
      refine ⟨_, _, [], .found huser, ?_⟩
      simp [ofUsername, Call.bind_apply, huser]
  -- nobody has the name: who may create a user, and with which e-mail
  | none =>
      cases hfederated : provisioner.federated with
      | true =>
          refine ⟨_, _, [], .unknown huser hfederated, ?_⟩
          simp [ofUsername, createKerberos, Call.bind_apply, huser, hfederated]
      | false =>
          cases hdomain : provisioner.emailDomain with
          | none =>
              refine ⟨_, _, [], .domainless huser hfederated hdomain, ?_⟩
              simp [ofUsername, createKerberos, noDomain, Call.bind_apply, huser, hfederated,
                hdomain]
          | some domain =>
              have hcreate := create_apply moment ⟨username, username ++ "@" ++ domain, none⟩
                (context.logging [.kerberosUserCreated username])
                ((Store.userNamed?_eq_none_iff h).mp huser)
              refine ⟨_, _, [.kerberosUserCreated username, .userInserted moment.id],
                .new huser hfederated hdomain rfl, ?_⟩
              simp [ofUsername, createKerberos, Call.bind_apply, huser, hfederated, hdomain]
              simpa using hcreate

/-- A username leads to its user where Kerberos login is on. -/
theorem userBehind_username {gateway : Gateway} (hon : gateway.isEnabled .directory = true)
    (moment : Moment) (username : String) :
    (gateway.userBehind moment none (some username) : Call Store User) =
      gateway.provisioner.ofUsername moment username := by
  simp [userBehind, hon, Option.filter]

/-! ## The user of a principal -/

/-- Ways in which the user of a principal is found, with the store they leave. -/
inductive BoundUser (gateway : Gateway) (moment : Moment) (username : String) (store : Store) :
    Except Fault User → Store → Prop
  /-- The principal is bound. -/
  | bound {binding : Binding} {user : User}
      (hbinding : store.bindings.get? username = some binding)
      (huser : store.users.get? binding.user = some user) :
      BoundUser gateway moment username store (.ok user) store
  /-- A user has the name of the principal, and is bound to it. -/
  | found {user : User} (hfree : store.bindings.get? username = none)
      (huser : store.userNamed? username = some user) :
      BoundUser gateway moment username store (.ok user)
        (store.addBinding ⟨username, user.id⟩)
  /-- Nobody has the name, and a user comes only from the provider. -/
  | unknown (hfree : store.bindings.get? username = none)
      (hunknown : store.userNamed? username = none)
      (hfederated : gateway.provisioner.federated = true) :
      BoundUser gateway moment username store
        (.error (.accessRestricted (unknownUserText username))) store
  /-- Nobody has the name, and there is no domain for an e-mail. -/
  | domainless (hfree : store.bindings.get? username = none)
      (hunknown : store.userNamed? username = none)
      (hfederated : gateway.provisioner.federated = false)
      (hdomain : gateway.provisioner.emailDomain = none) :
      BoundUser gateway moment username store (.error noDomain) store
  /-- Nobody has the name; the user is created and bound. -/
  | new {domain : String} {user : NewUser} (hfree : store.bindings.get? username = none)
      (hunknown : store.userNamed? username = none)
      (hfederated : gateway.provisioner.federated = false)
      (hdomain : gateway.provisioner.emailDomain = some domain)
      (huser : user = ⟨username, username ++ "@" ++ domain, none⟩) :
      BoundUser gateway moment username store (.ok (Store.newRecord moment user))
        ((store.insert moment user).addBinding ⟨username, moment.id⟩)

section Binding

variable {gateway : Gateway} {context : Context Store}

/-- The user found for a free principal is bound to it. -/
theorem boundUser_of_user (moment : Moment) (principal : String) {username : String}
    {user old : User} {store : Store} {events : List Event}
    (hfree : context.store.bindings.get? username = none)
    (huser : gateway.userBehind moment none (some username) context =
      (.ok user, (context.withStore store).logging events))
    (hold : store.users.get? user.id = some old)
    (hstill : store.bindings.get? username = none) :
    ∃ more, gateway.boundUser moment principal username context =
      (.ok user, (context.withStore (store.addBinding ⟨username, user.id⟩)).logging more) := by
  have hbind : UserStore.bind ⟨username, user.id⟩
      (((context.withStore store).logging events).logging
        [.principalBound principal user.name]).store =
      (.ok ⟨username, user.id⟩, store.addBinding ⟨username, user.id⟩) :=
    Store.bind_eq_addBinding hold hstill
  have hstep := Call.onStore_of_ok hbind
  refine ⟨events ++ [.principalBound principal user.name], ?_⟩
  rw [boundUser, Call.bind_of_ok (Call.onStore_findBinding username context), hfree]
  simp only [Call.bind_of_ok huser, Call.bind_of_ok (Call.log_apply _ _), Call.bind_of_ok hstep]
  simp

/-- Without a user for a free principal nothing is bound. -/
theorem boundUser_of_fault (moment : Moment) (principal : String) {username : String}
    {fault : Fault} {after : Context Store}
    (hfree : context.store.bindings.get? username = none)
    (hfault : gateway.userBehind moment none (some username) context = (.error fault, after)) :
    gateway.boundUser moment principal username context = (.error fault, after) := by
  rw [boundUser, Call.bind_of_ok (Call.onStore_findBinding username context), hfree]
  exact Call.bind_of_error hfault

/-- In a well-formed store the user of a principal is found in one of the listed
ways. -/
theorem boundUser_apply (moment : Moment) (principal username : String)
    (h : context.store.WellFormed) (hon : gateway.isEnabled .directory = true) :
    ∃ outcome store events, BoundUser gateway moment username context.store outcome store ∧
      gateway.boundUser moment principal username context =
        (outcome, (context.withStore store).logging events) := by
  -- a binding comes first, then the user of the name
  cases hbinding : context.store.bindings.get? username with
  | some binding =>
      obtain ⟨user, huser⟩ := h.bound hbinding
      refine ⟨_, _, [], .bound hbinding huser, ?_⟩
      simp [boundUser, Call.bind_apply, hbinding, huser]
  | none =>
      obtain ⟨outcome, store, events, hsought, hend⟩ :=
        ofUsername_apply gateway.provisioner moment username h
      rw [← userBehind_username hon] at hend
      cases hsought with
      | found huser =>
          obtain ⟨more, hbound⟩ := boundUser_of_user moment principal hbinding hend
            ((Store.userNamed?_eq_some_iff h).mp huser).1 hbinding
          exact ⟨_, _, more, .found hbinding huser, hbound⟩
      | unknown hunknown hfederated =>
          exact ⟨_, _, events, .unknown hbinding hunknown hfederated,
            boundUser_of_fault moment principal hbinding hend⟩
      | domainless hunknown hfederated hdomain =>
          exact ⟨_, _, events, .domainless hbinding hunknown hfederated hdomain,
            boundUser_of_fault moment principal hbinding hend⟩
      | new hunknown hfederated hdomain huser =>
          subst huser
          obtain ⟨more, hbound⟩ := boundUser_of_user moment principal hbinding hend
            Store.users_get?_insert_self hbinding
          exact ⟨_, _, more, .new hbinding hunknown hfederated hdomain rfl, hbound⟩

end Binding

namespace BoundUser

variable {gateway : Gateway} {moment : Moment} {username : String} {store after later : Store}
  {outcome other : Except Fault User} {user : User}

theorem wellFormed (h : BoundUser gateway moment username store outcome after)
    (hstore : store.WellFormed) (hfresh : store.users.get? moment.id = none) :
    after.WellFormed := by
  cases h with
  | bound | unknown | domainless => exact hstore
  | found _ huser =>
      obtain ⟨hold, -⟩ := (Store.userNamed?_eq_some_iff hstore).mp huser
      exact Store.wellFormed_addBinding hstore hold
  | new _ hunknown _ _ huser =>
      subst huser
      have hfree := (Store.userNamed?_eq_none_iff hstore).mp hunknown
      exact Store.wellFormed_addBinding (Store.wellFormed_insert hstore hfresh hfree)
        Store.users_get?_insert_self

theorem grows (h : BoundUser gateway moment username store outcome after)
    (hstore : store.WellFormed) : Store.Grows store after := by
  cases h with
  | bound | unknown | domainless => exact Store.Grows.refl store
  | found => exact Store.grows_addBinding
  | new _ hunknown _ _ huser =>
      subst huser
      have hfree := (Store.userNamed?_eq_none_iff hstore).mp hunknown
      exact (Store.grows_insert hfree).trans Store.grows_addBinding

theorem named (h : BoundUser gateway moment username store outcome after)
    (hnamed : store.Named) (hname : username ≠ "") : after.Named := by
  cases h with
  | bound | unknown | domainless => exact hnamed
  | found => exact Store.named_addBinding hnamed
  | new _ _ _ _ huser =>
      subst huser
      exact Store.named_addBinding (Store.named_insert hnamed hname)

/-- The user that is found has a record. -/
theorem stored (h : BoundUser gateway moment username store (.ok user) after)
    (hstore : store.WellFormed) : after.users.get? user.id = some user := by
  cases h with
  | bound _ huser =>
      rw [hstore.id_eq huser]
      exact huser
  | found _ huser => exact ((Store.userNamed?_eq_some_iff hstore).mp huser).1
  | new => exact Store.users_get?_insert_self

/-- The user of a principal is found in one way only. -/
theorem unique (h : BoundUser gateway moment username store outcome after)
    (h' : BoundUser gateway moment username store other later) :
    outcome = other ∧ after = later := by
  cases h with
  | bound hbinding huser => cases h' <;> simp_all
  | found hfree huser => cases h' <;> simp_all
  | unknown hfree hunknown hfederated => cases h' <;> simp_all
  | domainless hfree hunknown hfederated hdomain => cases h' <;> simp_all
  | new hfree hunknown hfederated hdomain huser => cases h' <;> simp_all

/-- The user that is found is found again by its name. -/
theorem names_get? (h : BoundUser gateway moment username store (.ok user) after)
    (hstore : store.WellFormed) : after.names.get? user.name = some user.id := by
  cases h with
  | bound _ huser => exact hstore.name_iff.mpr ⟨user, hstore.id_eq huser ▸ huser, rfl⟩
  | found _ huser =>
      obtain ⟨hstored, -⟩ := (Store.userNamed?_eq_some_iff hstore).mp huser
      exact hstore.name_iff.mpr ⟨user, hstored, rfl⟩
  | new => exact Table.get?_put_self ..

end BoundUser

/-- Whether a principal has a user: one it is bound to, one of its name, or one that is
made for it. -/
def findsUser (gateway : Gateway) (username : String) (store : Store) : Bool :=
  (store.bindings.get? username).isSome || (store.userNamed? username).isSome ||
    (!gateway.provisioner.federated && gateway.provisioner.emailDomain.isSome)

namespace BoundUser

variable {gateway : Gateway} {moment : Moment} {username : String} {store after : Store}
  {user : User} {fault : Fault}

theorem findsUser_of_ok (h : BoundUser gateway moment username store (.ok user) after) :
    gateway.findsUser username store = true := by
  cases h with
  | bound hbinding => simp [findsUser, hbinding]
  | found _ huser => simp [findsUser, huser]
  | new _ _ hfederated hdomain => simp [findsUser, hfederated, hdomain]

theorem findsUser_of_error (h : BoundUser gateway moment username store (.error fault) after) :
    gateway.findsUser username store = false := by
  cases h with
  | unknown hfree hunknown hfederated => simp [findsUser, hfree, hunknown, hfederated]
  | domainless hfree hunknown _ hdomain => simp [findsUser, hfree, hunknown, hdomain]

end BoundUser

/-! ## Ways a Kerberos login ends -/

/-- The fault of a request without a principal. -/
def noCredentials : Fault :=
  .accessRestricted "Kerberos authentication failed (no credentials provided)"

/-- The fault of a principal that names nobody. -/
def invalidPrincipal (principal : String) : Fault :=
  .invalidUsername ("invalid krb5 username: " ++ principal)

/-- The session with the marker of a Kerberos login. -/
def kerberosSession (user : User) (session : Session) : Session :=
  session.put MechanismKind.directory.sessionKey user.name

/-- A session without an identity is marked with the name of a Kerberos login. -/
theorem sessionName?_kerberosSession {settings : Settings}
    {directory : Option Directory.Client} {gateway : Gateway}
    (h : ofSettings settings directory = .ok gateway) {user : User}
    (hon : gateway.isEnabled .directory = true) {session : Session}
    (hnone : gateway.identity? session = none) (hname : user.name ≠ "") :
    gateway.sessionName? (kerberosSession user session) = some user.name := by
  rw [sessionName?, kerberosSession, marker?_put_directory h hon hnone hname]
  rfl

/-- The name that the principal of a request presents, if it has one. -/
def presented? (remoteUser : Option String) : Option String :=
  (remoteUser.filter (· ≠ "")).bind Username.ofPrincipal?

/-- Steps a Kerberos login makes towards the directory: a session of nobody asks for the
groups of a principal that has a user. -/
def kerberosSteps (gateway : Gateway) (remoteUser : Option String) (store : Store)
    (session : Session) (script : Directory.Script) : List Directory.Step :=
  if gateway.isEnabled .directory = true ∧ gateway.sessionUser? session store = none then
    (presented? remoteUser).elim [] fun username =>
      if gateway.findsUser username store then gateway.groups.asked username script else []
  else []

/-- Ways a Kerberos login ends when the directory tells `told username`, with its
answer and the store and the session it leaves. -/
inductive KerberosLogin (gateway : Gateway) (moment : Moment) (remoteUser : Option String)
    (told : String → Except Fault GroupSet) (store : Store) (session : Session) :
    Except Fault User → Store → Session → Prop
  /-- Kerberos login is off. -/
  | off (hoff : gateway.isEnabled .directory = false) :
      KerberosLogin gateway moment remoteUser told store session (.error .noMechanism) store
        session
  /-- The session is logged in. -/
  | already {user : User} (hon : gateway.isEnabled .directory = true)
      (huser : gateway.sessionUser? session store = some user) :
      KerberosLogin gateway moment remoteUser told store session (.ok user) store session
  /-- The request presents no principal. -/
  | nameless (hon : gateway.isEnabled .directory = true)
      (hnobody : gateway.sessionUser? session store = none)
      (hnone : remoteUser.filter (· ≠ "") = none) :
      KerberosLogin gateway moment remoteUser told store session (.error noCredentials) store
        session
  /-- The principal names nobody. -/
  | invalid {principal : String} (hon : gateway.isEnabled .directory = true)
      (hnobody : gateway.sessionUser? session store = none)
      (hprincipal : remoteUser.filter (· ≠ "") = some principal)
      (hinvalid : Username.ofPrincipal? principal = none) :
      KerberosLogin gateway moment remoteUser told store session
        (.error (invalidPrincipal principal)) store session
  /-- The principal has no user. -/
  | userless {username : String} {fault : Fault} {after : Store}
      (hon : gateway.isEnabled .directory = true)
      (hnobody : gateway.sessionUser? session store = none)
      (hname : presented? remoteUser = some username)
      (hbound : BoundUser gateway moment username store (.error fault) after) :
      KerberosLogin gateway moment remoteUser told store session (.error fault) after session
  /-- The groups of the user are not told. -/
  | groupless {username : String} {user : User} {fault : Fault} {after : Store}
      (hon : gateway.isEnabled .directory = true)
      (hnobody : gateway.sessionUser? session store = none)
      (hname : presented? remoteUser = some username)
      (hbound : BoundUser gateway moment username store (.ok user) after)
      (htold : told username = .error fault) :
      KerberosLogin gateway moment remoteUser told store session (.error fault) after session
  /-- The user is logged in. -/
  | done {username : String} {user : User} {groups : GroupSet} {after : Store}
      (hon : gateway.isEnabled .directory = true)
      (hnobody : gateway.sessionUser? session store = none)
      (hname : presented? remoteUser = some username)
      (hbound : BoundUser gateway moment username store (.ok user) after)
      (htold : told username = .ok groups) :
      KerberosLogin gateway moment remoteUser told store session
        (.ok (settledRecord moment.time groups user))
        (after.replace (settledRecord moment.time groups user)) (kerberosSession user session)

section Completing

variable {gateway : Gateway} {moment : Moment} {context : Context Store}

/-- The user of a principal with a name is settled with the groups that are told. -/
theorem loginPrincipal_of_name {principal username : String} {user : User} {after : Context Store}
    (hname : Username.ofPrincipal? principal = some username)
    (hfound : gateway.boundUser moment principal username context = (.ok user, after)) :
    gateway.loginPrincipal moment principal context =
      (gateway.groups.groups none (some username) >>= fun groups =>
        settle moment .directory user groups User.name) after := by
  rw [loginPrincipal, hname]
  exact Call.bind_of_ok hfound

/-- A principal with a name is logged in as its user, when the user is found and
its groups are told. -/
theorem loginPrincipal_apply (moment : Moment) {remoteUser : Option String}
    {principal username : String}
    (h : context.store.WellFormed) (hon : gateway.isEnabled .directory = true)
    (hnobody : gateway.sessionUser? context.session context.store = none)
    (hprincipal : remoteUser.filter (· ≠ "") = some principal)
    (hname : Username.ofPrincipal? principal = some username) :
    ∃ outcome store session left events,
      KerberosLogin gateway moment remoteUser
          (fun name => gateway.groups.told name context.directory) context.store context.session
          outcome store session ∧
        gateway.loginPrincipal moment principal context =
          (outcome, (((context.asking (gateway.kerberosSteps remoteUser context.store
            context.session context.directory) left).withStore store).withSession
              session).logging events) := by
  have hpresented : presented? remoteUser = some username := by
    rw [presented?, hprincipal]
    exact hname
  have hsteps : gateway.kerberosSteps remoteUser context.store context.session
      context.directory = if gateway.findsUser username context.store then
        gateway.groups.asked username context.directory else [] := by
    rw [kerberosSteps, if_pos ⟨hon, hnobody⟩, hpresented]
    rfl
  obtain ⟨outcome, store, events, hbound, hfound⟩ :=
    boundUser_apply moment principal username h hon
  cases outcome with
  | error fault =>
      refine ⟨_, _, _, context.directory.opening, events,
        .userless hon hnobody hpresented hbound, ?_⟩
      rw [hsteps, hbound.findsUser_of_error, if_neg Bool.false_ne_true, loginPrincipal, hname,
        Context.asking_nil]
      exact Call.bind_of_error hfound
  -- the user stays bound even when its groups are not told
  | ok user =>
      rw [hbound.findsUser_of_ok, if_pos rfl] at hsteps
      obtain ⟨more, left, hgroups⟩ := gateway.groups.groups_asking username
        ((context.withStore store).logging events)
      rw [Context.directory_logging, Context.directory_withStore, Context.logging_asking,
        Context.withStore_asking, Context.logging_logging, ← hsteps] at hgroups
      cases htold : gateway.groups.told username context.directory with
      | error fault =>
          refine ⟨_, _, _, left, events ++ more,
            .groupless hon hnobody hpresented hbound htold, ?_⟩
          rw [htold] at hgroups
          rw [loginPrincipal_of_name hname hfound, Call.bind_of_error hgroups]
          rfl
      | ok groups =>
          have hstored : (((context.asking (gateway.kerberosSteps remoteUser context.store
              context.session context.directory) left).withStore store).logging
              (events ++ more)).store.users.get? user.id = some user := hbound.stored h
          obtain ⟨later, hsettle⟩ :=
            settle_apply moment .directory groups User.name hstored rfl
          refine ⟨_, _, _, left, events ++ more ++ later,
            .done hon hnobody hpresented hbound htold, ?_⟩
          rw [htold] at hgroups
          rw [loginPrincipal_of_name hname hfound, Call.bind_of_ok hgroups, hsettle,
            ← Context.logging_logging (events ++ more) later]
          rfl

/-- A session of nobody is logged in with the principal of the request. -/
theorem tryKerberos_of_nobody {remoteUser : Option String} {after : Context Store}
    (hon : gateway.isEnabled .directory = true)
    (hcurrent : gateway.currentUser context = (.ok none, after)) :
    gateway.tryKerberos moment remoteUser context =
      (match remoteUser.filter (· ≠ "") with
        | none => Call.fail noCredentials
        | some principal => gateway.loginPrincipal moment principal) after := by
  rw [tryKerberos, if_pos hon, Call.bind_of_ok hcurrent]
  rfl

/-- In a well-formed store a Kerberos login ends in one of the listed ways, with its
fault in the words of `kerberosFault`, after the steps of `kerberosSteps`. -/
theorem completeKerberos_asking (gateway : Gateway) (moment : Moment)
    (remoteUser : Option String) (h : context.store.WellFormed) :
    ∃ outcome store session left events,
      KerberosLogin gateway moment remoteUser
          (fun name => gateway.groups.told name context.directory) context.store context.session
          outcome store session ∧
        gateway.completeKerberos moment remoteUser context =
          (outcome.mapError kerberosFault,
            (((context.asking (gateway.kerberosSteps remoteUser context.store context.session
              context.directory) left).withStore store).withSession session).logging events) := by
  -- faults are put into words after the login, which leaves its context alone
  suffices htry : ∃ outcome store session left events,
      KerberosLogin gateway moment remoteUser
          (fun name => gateway.groups.told name context.directory) context.store context.session
          outcome store session ∧
        gateway.tryKerberos moment remoteUser context =
          (outcome, (((context.asking (gateway.kerberosSteps remoteUser context.store
            context.session context.directory) left).withStore store).withSession
              session).logging events) by
    obtain ⟨outcome, store, session, left, events, hlogin, hend⟩ := htry
    exact ⟨outcome, store, session, left, events, hlogin, Call.mapFault_of_eq hend⟩
  cases hon : gateway.isEnabled .directory with
  | false =>
      refine ⟨_, _, _, context.directory.opening, [], .off hon, ?_⟩
      simp [tryKerberos, kerberosSteps, hon]
  | true =>
      obtain ⟨events, hcurrent⟩ := gateway.currentUser_apply context
      cases hsession : gateway.sessionUser? context.session context.store with
      | some user =>
          refine ⟨_, _, _, context.directory.opening, events ++ [.alreadyLoggedIn user.name],
            .already hon hsession, ?_⟩
          simp [tryKerberos, kerberosSteps, hon, Call.bind_apply, hcurrent, hsession]
      -- nobody is logged in, so the principal of the request counts
      | none =>
          rw [hsession] at hcurrent
          rw [tryKerberos_of_nobody hon hcurrent]
          cases hprincipal : remoteUser.filter (· ≠ "") with
          | none =>
              refine ⟨_, _, _, context.directory.opening, events,
                .nameless hon hsession hprincipal, ?_⟩
              have hpresented : presented? remoteUser = none := by
                rw [presented?, hprincipal]
                rfl
              simp [kerberosSteps, hpresented]
          | some principal =>
              cases hname : Username.ofPrincipal? principal with
              | none =>
                  refine ⟨_, _, _, context.directory.opening, events,
                    .invalid hon hsession hprincipal hname, ?_⟩
                  have hpresented : presented? remoteUser = none := by
                    rw [presented?, hprincipal]
                    exact hname
                  simp [loginPrincipal, kerberosSteps, hpresented, hname, invalidPrincipal]
              | some username =>
                  have hstore : (context.logging events).store.WellFormed := h
                  obtain ⟨outcome, store, session, left, more, hlogin, hend⟩ :=
                    loginPrincipal_apply moment hstore hon hsession hprincipal hname
                  refine ⟨outcome, store, session, left, events ++ more, hlogin, ?_⟩
                  simp [hend]

/-- In a well-formed store a Kerberos login ends in one of the listed ways. -/
theorem completeKerberos_apply (gateway : Gateway) (moment : Moment) (remoteUser : Option String)
    (h : context.store.WellFormed) :
    ∃ outcome store session steps left events,
      KerberosLogin gateway moment remoteUser
          (fun name => gateway.groups.told name context.directory) context.store context.session
          outcome store session ∧
        gateway.completeKerberos moment remoteUser context =
          (outcome.mapError kerberosFault,
            (((context.asking steps left).withStore store).withSession session).logging
              events) := by
  obtain ⟨outcome, store, session, left, events, hends⟩ :=
    completeKerberos_asking gateway moment remoteUser h
  exact ⟨outcome, store, session, _, left, events, hends⟩

end Completing

/-! ## What every Kerberos login keeps -/

/-- The name a principal presents is not empty. -/
theorem ne_empty_of_presented? {remoteUser : Option String} {username : String}
    (h : presented? remoteUser = some username) : username ≠ "" := by
  obtain ⟨principal, -, hname⟩ := Option.bind_eq_some_iff.mp h
  exact Username.ne_empty_of_isValid (Username.isValid_of_ofPrincipal? hname)

namespace KerberosLogin

variable {gateway : Gateway} {moment : Moment} {remoteUser : Option String}
  {told : String → Except Fault GroupSet} {store after : Store} {session left : Session}
  {outcome : Except Fault User} {user : User}

theorem wellFormed
    (h : KerberosLogin gateway moment remoteUser told store session outcome after left)
    (hstore : store.WellFormed) (hfresh : store.users.get? moment.id = none) :
    after.WellFormed := by
  cases h with
  | off | already | nameless | invalid => exact hstore
  | userless _ _ _ hbound => exact hbound.wellFormed hstore hfresh
  | groupless _ _ _ hbound => exact hbound.wellFormed hstore hfresh
  | done _ _ _ hbound =>
      exact Store.wellFormed_replace (hbound.wellFormed hstore hfresh) (hbound.stored hstore) rfl

theorem grows (h : KerberosLogin gateway moment remoteUser told store session outcome after left)
    (hstore : store.WellFormed) : Store.Grows store after := by
  cases h with
  | off | already | nameless | invalid => exact Store.Grows.refl store
  | userless _ _ _ hbound => exact hbound.grows hstore
  | groupless _ _ _ hbound => exact hbound.grows hstore
  | done _ _ _ hbound => exact (hbound.grows hstore).trans Store.grows_replace

theorem named (h : KerberosLogin gateway moment remoteUser told store session outcome after left)
    (hstore : store.WellFormed) (hnamed : store.Named) : after.Named := by
  cases h with
  | off | already | nameless | invalid => exact hnamed
  | userless _ _ hname hbound => exact hbound.named hnamed (ne_empty_of_presented? hname)
  | groupless _ _ hname hbound => exact hbound.named hnamed (ne_empty_of_presented? hname)
  | done _ _ hname hbound =>
      have hkept := hbound.named hnamed (ne_empty_of_presented? hname)
      have huser := hkept _ _ (hbound.stored hstore)
      exact Store.named_replace hkept huser

/-- A failed login leaves the session as it was. -/
theorem session_of_error {fault : Fault}
    (h : KerberosLogin gateway moment remoteUser told store session (.error fault) after left) :
    left = session := by
  cases h with
  | off | nameless | invalid | userless | groupless => rfl

/-- A login that succeeds goes to the user of the session, or marks a session of
nobody with the name of its user. -/
theorem of_ok
    (h : KerberosLogin gateway moment remoteUser told store session (.ok user) after left)
    (hstore : store.WellFormed) (hnamed : store.Named) :
    (gateway.sessionUser? session store = some user ∧ after = store ∧ left = session) ∨
      (gateway.isEnabled .directory = true ∧ gateway.sessionUser? session store = none ∧
        user.name ≠ "" ∧ after.names.get? user.name = some user.id ∧
        left = kerberosSession user session) := by
  cases h with
  | already _ huser => exact Or.inl ⟨huser, rfl, rfl⟩
  | done hon hnobody hname hbound _ =>
      have huser := hbound.named hnamed (ne_empty_of_presented? hname) _ _ (hbound.stored hstore)
      exact Or.inr ⟨hon, hnobody, huser, hbound.names_get? hstore, rfl⟩

/-- When the user of a principal is found for a session of nobody, the source of groups
decides how the login ends. -/
theorem of_found {username : String} {middle : Store}
    (h : KerberosLogin gateway moment remoteUser told store session outcome after left)
    (hon : gateway.isEnabled .directory = true)
    (hnobody : gateway.sessionUser? session store = none)
    (hname : presented? remoteUser = some username)
    (hbound : BoundUser gateway moment username store (.ok user) middle) :
    (∃ fault, told username = .error fault ∧ outcome = .error fault ∧ after = middle ∧
        left = session) ∨
      ∃ groups, told username = .ok groups ∧
        outcome = .ok (settledRecord moment.time groups user) ∧
        after = middle.replace (settledRecord moment.time groups user) ∧
        left = kerberosSession user session := by
  cases h with
  | off hoff =>
      rw [hon] at hoff
      cases hoff
  | already _ huser =>
      rw [hnobody] at huser
      cases huser
  | nameless _ _ hnone =>
      rw [presented?, hnone] at hname
      cases hname
  | invalid _ _ hprincipal hinvalid =>
      rw [presented?, hprincipal, Option.bind_some, hinvalid] at hname
      cases hname
  | userless _ _ hname' hbound' =>
      obtain rfl := Option.some.inj (hname.symm.trans hname')
      cases (hbound.unique hbound').1
  | groupless _ _ hname' hbound' htold =>
      obtain rfl := Option.some.inj (hname.symm.trans hname')
      obtain ⟨-, rfl⟩ := hbound.unique hbound'
      exact Or.inl ⟨_, htold, rfl, rfl, rfl⟩
  | done _ _ hname' hbound' htold =>
      obtain rfl := Option.some.inj (hname.symm.trans hname')
      obtain ⟨huser, rfl⟩ := hbound.unique hbound'
      obtain rfl := Except.ok.inj huser
      exact Or.inr ⟨_, htold, rfl, rfl, rfl⟩

end KerberosLogin

end SignOn.Gateway
