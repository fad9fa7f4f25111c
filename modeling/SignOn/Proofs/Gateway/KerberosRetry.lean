import SignOn.Proofs.Gateway.KerberosLogin
import SignOn.Proofs.Store.Renaming

/-!
# Kerberos logins that failed, and what comes of trying again

A Kerberos login creates and binds its user before it asks for the groups, so one
that fails may leave a record and a binding behind, both of the name it presents
(`Store.Adds`); the session and all that was stored stay as they were.

Tried again, the login finds the binding and ends as a single login would have, but
for the identifier of a new user and the times of saves (`EndsAlike`), unless the
session was marked with the name already (`Revives`): then the first attempt has
made the old marker count, and the second one finds the session logged in and never
asks for the groups. `completeKerberos_retried` puts this together.
-/

set_option autoImplicit false

namespace SignOn

/-! ## Stores with one user more -/

/-- The second store has all that the first has, and beyond it no record but one under
`id` and no binding but that of `name`, both of `name`. -/
structure Store.Adds (id : UserId) (name : String) (before after : Store) : Prop where
  users : ∀ {other : UserId} {user : User}, before.users.get? other = some user →
    after.users.get? other = some user
  bindings : ∀ {principal : String} {binding : Binding},
    before.bindings.get? principal = some binding → after.bindings.get? principal = some binding
  user_or : ∀ {other : UserId} {user : User}, after.users.get? other = some user →
    before.users.get? other = some user ∨ (other = id ∧ user.name = name)
  binding_or : ∀ {principal : String} {binding : Binding},
    after.bindings.get? principal = some binding →
      before.bindings.get? principal = some binding ∨
        (principal = name ∧ binding.principal = name)

namespace Store

variable {id : UserId} {name : String} {store : Store}

theorem Adds.refl (store : Store) : Adds id name store store :=
  ⟨fun h => h, fun h => h, Or.inl, Or.inl⟩

theorem Adds.trans {a b c : Store} (hab : Adds id name a b) (hbc : Adds id name b c) :
    Adds id name a c where
  users := fun h => hbc.users (hab.users h)
  bindings := fun h => hbc.bindings (hab.bindings h)
  user_or := by
    intro other user huser
    rcases hbc.user_or huser with hb | hnew
    · exact hab.user_or hb
    · exact Or.inr hnew
  binding_or := by
    intro principal binding hbinding
    rcases hbc.binding_or hbinding with hb | hnew
    · exact hab.binding_or hb
    · exact Or.inr hnew

theorem adds_insert {moment : Moment} (new : NewUser)
    (hfresh : store.users.get? moment.id = none) :
    Adds moment.id new.name store (store.insert moment new) where
  users := by
    intro other user huser
    have hne : moment.id ≠ other := by
      rintro rfl
      rw [hfresh] at huser
      cases huser
    rw [insert, Table.get?_put_of_ne _ _ hne]
    exact huser
  bindings := fun h => h
  user_or := by
    intro other user huser
    rcases Table.eq_or_of_get?_put huser with ⟨rfl, rfl⟩ | ⟨-, hold⟩
    · exact Or.inr ⟨rfl, rfl⟩
    · exact Or.inl hold
  binding_or := Or.inl

theorem adds_addBinding {owner : UserId} (hfree : store.bindings.get? name = none) :
    Adds id name store (store.addBinding ⟨name, owner⟩) where
  users := fun h => h
  bindings := by
    intro principal binding hbinding
    have hne : name ≠ principal := by
      rintro rfl
      rw [hfree] at hbinding
      cases hbinding
    rw [addBinding, Table.get?_put_of_ne _ _ hne]
    exact hbinding
  user_or := Or.inl
  binding_or := by
    intro principal binding hbinding
    rcases Table.eq_or_of_get?_put hbinding with ⟨rfl, rfl⟩ | ⟨-, hold⟩
    · exact Or.inr ⟨rfl, rfl⟩
    · exact Or.inl hold

end Store

namespace Gateway

open SignOn.Provisioner

/-! ## Finding the user again -/

namespace BoundUser

variable {σ : Equiv.Perm UserId} {gateway : Gateway} {moment again : Moment} {username : String}
  {store after : Store} {outcome : Except Fault User} {user : User} {fault : Fault}

/-- Finding the user of a principal adds at most a record and a binding of its name. -/
theorem adds (h : BoundUser gateway moment username store outcome after)
    (hfresh : store.users.get? moment.id = none) : store.Adds moment.id username after := by
  cases h with
  | bound | unknown | domainless => exact Store.Adds.refl store
  | found hfree => exact Store.adds_addBinding hfree
  | @new domain _ hfree _ _ _ huser =>
      subst huser
      have hinsert : store.Adds moment.id username _ :=
        Store.adds_insert ⟨username, username ++ "@" ++ domain, none⟩ hfresh
      exact hinsert.trans (Store.adds_addBinding hfree)

/-- A principal without a user leaves the store alone, and has none at another time. -/
theorem refused (h : BoundUser gateway moment username store (.error fault) after)
    (again : Moment) :
    after = store ∧ BoundUser gateway again username store (.error fault) store := by
  cases h with
  | unknown hfree hunknown hfederated => exact ⟨rfl, .unknown hfree hunknown hfederated⟩
  | domainless hfree hunknown hfederated hdomain =>
      exact ⟨rfl, .domainless hfree hunknown hfederated hdomain⟩

/-- A user that was found is bound to its principal from then on. -/
theorem rebound (h : BoundUser gateway moment username store (.ok user) after)
    (hstore : store.WellFormed) : BoundUser gateway again username after (.ok user) after := by
  cases h with
  | bound hbinding huser => exact .bound hbinding huser
  | found _ huser =>
      obtain ⟨hstored, -⟩ := (Store.userNamed?_eq_some_iff hstore).mp huser
      exact .bound (Table.get?_put_self ..) hstored
  | new => exact .bound (Table.get?_put_self ..) Store.users_get?_insert_self

/-- At another time the same user is found, but for the identifier of a new one. -/
theorem alike (h : BoundUser gateway moment username store (.ok user) after)
    (hstore : store.WellFormed) (hfixes : store.Fixes σ) (hid : σ moment.id = again.id) :
    ∃ found left, BoundUser gateway again username store (.ok found) left ∧
      user.Alike σ found ∧ after.Alike σ left := by
  have hself := hfixes.alike_self hstore
  cases h with
  | bound hbinding huser =>
      have hstored : store.users.get? user.id = some user := by
        rw [hstore.id_eq huser]
        exact huser
      exact ⟨user, store, .bound hbinding huser, hfixes.alike_user hstored, hself⟩
  | found hfree huser =>
      obtain ⟨hstored, -⟩ := (Store.userNamed?_eq_some_iff hstore).mp huser
      have hbound := hself.addBinding username user.id
      rw [hfixes user.id user hstored] at hbound
      exact ⟨user, _, .found hfree huser, hfixes.alike_user hstored, hbound⟩
  | @new domain new hfree hunknown hfederated hdomain huser =>
      have hbound := (hself.insert hid new).addBinding username moment.id
      rw [hid] at hbound
      refine ⟨_, _, .new hfree hunknown hfederated hdomain huser, ?_, hbound⟩
      simp [User.Alike, Store.newRecord, hid]

end BoundUser

/-! ## The session of a failed login -/

/-- The session is marked with the name of the principal, to which nobody is bound. -/
def Revives (gateway : Gateway) (remoteUser : Option String) (session : Session)
    (store : Store) : Prop :=
  ∃ username, presented? remoteUser = some username ∧
    gateway.sessionName? session = some username ∧ store.bindings.get? username = none

section FailedLogin

variable {gateway : Gateway} {moment : Moment} {remoteUser : Option String} {username : String}
  {store left : Store} {session : Session} {user : User}

/-- Finding the user of a principal makes no marker of another name count. -/
theorem sessionUser?_of_not_revives (hname : presented? remoteUser = some username)
    (hbound : BoundUser gateway moment username store (.ok user) left)
    (hstore : store.WellFormed) (hnobody : gateway.sessionUser? session store = none)
    (hother : ¬ gateway.Revives remoteUser session store) :
    gateway.sessionUser? session left = none := by
  cases hbound with
  | bound | found => exact hnobody
  | @new _ new hfree _ _ _ huser =>
      cases hmarked : gateway.sessionName? session with
      | none => rw [sessionUser?, hmarked, Option.bind_none]
      | some marked =>
          have hne : new.name ≠ marked := by
            rintro rfl
            rw [huser] at hmarked
            exact hother ⟨username, hname, hmarked, hfree⟩
          rw [sessionUser?, hmarked, Option.bind_some] at hnobody ⊢
          have hfreeName := (Store.userNamed?_eq_none_iff hstore).mp hnobody
          simp [Store.userNamed?, Store.addBinding, Store.insert, Table.get?_put_of_ne _ _ hne,
            hfreeName]

/-- An old marker of the name of a new user makes the session that user's, who has no
groups yet. -/
theorem sessionUser?_of_revives (hname : presented? remoteUser = some username)
    (hbound : BoundUser gateway moment username store (.ok user) left)
    (hnobody : gateway.sessionUser? session store = none)
    (hrevives : gateway.Revives remoteUser session store) :
    gateway.sessionUser? session left = some user ∧ user.groups = none := by
  obtain ⟨other, hother, hmarked, hfree⟩ := hrevives
  obtain rfl := Option.some.inj (hname.symm.trans hother)
  cases hbound with
  | bound hbinding =>
      rw [hfree] at hbinding
      cases hbinding
  | found _ huser =>
      rw [sessionUser?, hmarked, Option.bind_some, huser] at hnobody
      cases hnobody
  | new _ _ _ _ huser =>
      subst huser
      refine ⟨?_, rfl⟩
      rw [sessionUser?, hmarked, Option.bind_some]
      simp [Store.userNamed?, Store.addBinding, Store.insert]

end FailedLogin

/-! ## The second attempt -/

namespace KerberosLogin

variable {σ : Equiv.Perm UserId} {gateway : Gateway} {moment again single : Moment}
  {remoteUser : Option String} {told later : String → Except Fault GroupSet}
  {store left after : Store} {session kept marked : Session} {outcome : Except Fault User}
  {fault : Fault} {user : User}

/-- A failed login adds at most a record and a binding of the name it presents. -/
theorem adds_of_error
    (h : KerberosLogin gateway moment remoteUser told store session (.error fault) left kept)
    (hfresh : store.users.get? moment.id = none) : left = store ∨
      ∃ username, presented? remoteUser = some username ∧
        store.Adds moment.id username left := by
  cases h with
  | off | nameless | invalid => exact Or.inl rfl
  | userless _ _ hname hbound | groupless _ _ hname hbound =>
      exact Or.inr ⟨_, hname, hbound.adds hfresh⟩

/-- A login that makes a session of nobody somebody's found its user, was told the
groups and saved them. -/
theorem done_of_nobody
    (h : KerberosLogin gateway moment remoteUser told store session (.ok user) after marked)
    (hnobody : gateway.sessionUser? session store = none) :
    ∃ username found groups middle, presented? remoteUser = some username ∧
      BoundUser gateway moment username store (.ok found) middle ∧
      told username = .ok groups ∧ user = settledRecord moment.time groups found ∧
      after = middle.replace user ∧ marked = kerberosSession found session := by
  cases h with
  | already _ huser =>
      rw [hnobody] at huser
      cases huser
  | done _ _ hname hbound htold => exact ⟨_, _, _, _, hname, hbound, htold, rfl, rfl, rfl⟩

/-- The way of a login that finds its user and is told the groups is the only one. -/
theorem eq_of_done {username : String} {groups : GroupSet} {middle : Store}
    (h : KerberosLogin gateway moment remoteUser told store session outcome after marked)
    (hon : gateway.isEnabled .directory = true)
    (hnobody : gateway.sessionUser? session store = none)
    (hname : presented? remoteUser = some username)
    (hbound : BoundUser gateway moment username store (.ok user) middle)
    (htold : told username = .ok groups) :
    outcome = .ok (settledRecord moment.time groups user) ∧
      after = middle.replace (settledRecord moment.time groups user) ∧
      marked = kerberosSession user session := by
  rcases h.of_found hon hnobody hname hbound with
    ⟨fault, hfault, -⟩ | ⟨told', htold', houtcome, hafter, hmarked⟩
  · rw [htold] at hfault
    cases hfault
  · obtain rfl := Except.ok.inj (htold.symm.trans htold')
    exact ⟨houtcome, hafter, hmarked⟩

/-- A login that succeeds on a second attempt failed because its groups were not told. -/
theorem groupless_of_retried
    (hfirst : KerberosLogin gateway moment remoteUser told store session (.error fault) left kept)
    (hagain : KerberosLogin gateway again remoteUser later left session (.ok user) after marked) :
    ∃ username found, gateway.isEnabled .directory = true ∧
      gateway.sessionUser? session store = none ∧ presented? remoteUser = some username ∧
      BoundUser gateway moment username store (.ok found) left := by
  -- every other reason is still there at the second attempt
  cases hfirst with
  | off hoff =>
      cases hagain with
      | already hon | done hon =>
          rw [hoff] at hon
          cases hon
  | nameless _ hnobody hnone =>
      obtain ⟨_, _, _, _, hname, -⟩ := hagain.done_of_nobody hnobody
      rw [presented?, hnone] at hname
      cases hname
  | invalid _ hnobody hprincipal hinvalid =>
      obtain ⟨_, _, _, _, hname, -⟩ := hagain.done_of_nobody hnobody
      rw [presented?, hprincipal, Option.bind_some, hinvalid] at hname
      cases hname
  | userless _ hnobody hname hbound =>
      obtain ⟨rfl, hstill⟩ := hbound.refused again
      obtain ⟨_, _, _, _, hname', hbound', -⟩ := hagain.done_of_nobody hnobody
      obtain rfl := Option.some.inj (hname.symm.trans hname')
      cases (hstill.unique hbound').1
  | groupless hon hnobody hname hbound => exact ⟨_, _, hon, hnobody, hname, hbound⟩

/-- Unless it revives an old marker, a login that succeeds on a second attempt ends as a
single login at any other time would. -/
theorem alike_of_retried
    (hfirst : KerberosLogin gateway moment remoteUser told store session (.error fault) left kept)
    (hagain : KerberosLogin gateway again remoteUser later left session (.ok user) after marked)
    (hstore : store.WellFormed) (hfixes : store.Fixes σ) (hid : σ moment.id = single.id)
    (hother : ¬ gateway.Revives remoteUser session store)
    {alone : Store} {ending : Session}
    (hsingle : KerberosLogin gateway single remoteUser later store session outcome alone ending) :
    ∃ found, outcome = .ok found ∧ user.Alike σ found ∧ after.Alike σ alone ∧ ending = marked := by
  obtain ⟨username, found, hon, hnobody, hname, hbound⟩ := groupless_of_retried hfirst hagain
  have hstill := sessionUser?_of_not_revives hname hbound hstore hnobody hother
  obtain ⟨_, _, groups, _, hname', hbound', htold, rfl, rfl, rfl⟩ := hagain.done_of_nobody hstill
  -- the second attempt finds the user of the first one, by the binding
  obtain rfl := Option.some.inj (hname.symm.trans hname')
  obtain ⟨hsame, rfl⟩ := (hbound.rebound hstore).unique hbound'
  obtain rfl := Except.ok.inj hsame
  -- the single login finds a user like it
  obtain ⟨other, middle, hbound', huser, halike⟩ := hbound.alike hstore hfixes hid
  obtain ⟨rfl, rfl, rfl⟩ := hsingle.eq_of_done hon hnobody hname hbound' htold
  have hsettled : (settledRecord again.time groups found).Alike σ
      (settledRecord single.time groups other) := by
    rw [User.Alike] at huser
    rw [User.Alike, huser]
    rfl
  refine ⟨_, rfl, hsettled, halike.replace hsettled, ?_⟩
  rw [kerberosSession, kerberosSession, huser.name_eq]

/-- A login that revives an old marker succeeds on a second attempt without groups,
which no single login does. -/
theorem groups_of_retried
    (hfirst : KerberosLogin gateway moment remoteUser told store session (.error fault) left kept)
    (hagain : KerberosLogin gateway again remoteUser later left session (.ok user) after marked)
    (hrevives : gateway.Revives remoteUser session store) {alone : Store} {ending : Session}
    {found : User}
    (hsingle : KerberosLogin gateway single remoteUser later store session (.ok found) alone
      ending) : user.groups = none ∧ found.groups ≠ none := by
  obtain ⟨username, new, -, hnobody, hname, hbound⟩ := groupless_of_retried hfirst hagain
  obtain ⟨hsession, hgroups⟩ := sessionUser?_of_revives hname hbound hnobody hrevives
  obtain ⟨_, _, groups, _, -, -, -, rfl, -⟩ := hsingle.done_of_nobody hnobody
  refine ⟨?_, by simp [settledRecord]⟩
  cases hagain with
  | already _ huser =>
      obtain rfl := Option.some.inj (hsession.symm.trans huser)
      exact hgroups
  | done _ hstill =>
      rw [hsession] at hstill
      cases hstill

end KerberosLogin

/-! ## Calls -/

/-- Both calls log in, as the same user and with the same session and store but for the
renaming and the times of the saves. -/
structure EndsAlike (σ : Equiv.Perm UserId) (ending other : Except Fault User × Context Store) :
    Prop where
  user : ∃ user found, ending.1 = .ok user ∧ other.1 = .ok found ∧ user.Alike σ found
  session : other.2.session = ending.2.session
  store : ending.2.store.Alike σ other.2.store

/-- A failed Kerberos login leaves the session and everything that was stored, and adds at
most a record and a binding of the name it presents. When the same login is made again
and succeeds, it ends as a single login with the same answers of the directory would
have, but for the identifier of a new user and the times of saves, exactly when the
first attempt did not revive an old marker of the name. -/
theorem completeKerberos_retried (gateway : Gateway) {moment : Moment}
    {remoteUser : Option String} {context left : Context Store} {fault : Fault}
    (hstore : context.store.WellFormed) (hfresh : context.store.users.get? moment.id = none)
    (hfirst : gateway.completeKerberos moment remoteUser context = (.error fault, left)) :
    left.session = context.session ∧
      (left.store = context.store ∨ ∃ username, presented? remoteUser = some username ∧
        context.store.Adds moment.id username left.store) ∧
      ∀ (again single : Moment) (script : Directory.Script) (user : User),
        context.store.users.get? single.id = none →
        (gateway.completeKerberos again remoteUser (left.withDirectory script)).1 = .ok user →
        (EndsAlike (Equiv.swap moment.id single.id)
            (gateway.completeKerberos again remoteUser (left.withDirectory script))
            (gateway.completeKerberos single remoteUser (context.withDirectory script)) ↔
          ¬ gateway.Revives remoteUser context.session context.store) := by
  obtain ⟨outcome, store, session, steps, answers, events, hlogin, hend⟩ :=
    completeKerberos_apply gateway moment remoteUser hstore
  rw [hend] at hfirst
  obtain ⟨houtcome, rfl⟩ := Prod.mk.inj hfirst
  cases outcome with
  | ok user => cases houtcome
  | error cause =>
      obtain rfl := hlogin.session_of_error
      refine ⟨rfl, hlogin.adds_of_error hfresh, ?_⟩
      intro again single script user hunused hagain
      have hleft : (((((context.asking steps answers).withStore store).withSession
          context.session).logging events).withDirectory script).store.WellFormed :=
        hlogin.wellFormed hstore hfresh
      have hbefore : (context.withDirectory script).store.WellFormed := hstore
      obtain ⟨retried, _, _, _, _, _, hretried, hretriedEnd⟩ :=
        completeKerberos_apply gateway again remoteUser hleft
      obtain ⟨alone, _, _, _, _, _, halone, haloneEnd⟩ :=
        completeKerberos_apply gateway single remoteUser hbefore
      rw [hretriedEnd] at hagain ⊢
      rw [haloneEnd]
      cases retried with
      | error cause => cases hagain
      | ok answered =>
          obtain rfl : answered = user := Except.ok.inj hagain
          constructor
          -- the groups tell a revived session from a new login
          · rintro ⟨⟨known, found, hknown, hfound, huser⟩, -, -⟩ hrevives
            obtain rfl : answered = known := Except.ok.inj hknown
            cases alone with
            | error cause => cases hfound
            | ok other =>
                obtain rfl : other = found := Except.ok.inj hfound
                obtain ⟨hnone, hsome⟩ := hlogin.groups_of_retried hretried hrevives halone
                exact hsome (huser.groups_eq.trans hnone)
          · intro hother
            obtain ⟨found, rfl, huser, hsame, hsession⟩ := hlogin.alike_of_retried hretried hstore
              (Store.fixes_swap hfresh hunused) (Equiv.swap_apply_left ..) hother halone
            exact ⟨⟨_, _, rfl, rfl, huser⟩, hsession, hsame⟩

/-! ### Carol's first tickets -/

/-- Settings of a service where users log in by their tickets only. -/
def ticketOnly : Settings :=
  { auth := { kerberos := .table "example.com", ldapUrl := some "ldap://[::1]/"
              ldapBase := some "ou=users,dc=example,dc=com" }
    server := ⟨"localhost", 8000, "", none⟩
    logLevel := "info" }

/-- The gateway of these settings. -/
def ticketOnlyGateway : Gateway :=
  { provisioner := .ofSettings ticketOnly.auth
    groups := ⟨false, Directory.Client.ofSettings? ticketOnly.auth⟩
    mechanisms := [.directory] }

theorem ofSettings_ticketOnly :
    ofSettings ticketOnly (Directory.Client.ofSettings? ticketOnly.auth) =
      .ok ticketOnlyGateway := rfl

/-- A directory that knows everybody as a packager. -/
def packagers : Directory.Script :=
  ⟨[], fun _ => .ok [⟨"uid=carol,ou=users,dc=example,dc=com",
    [(Directory.memberOf, ["cn=packager,ou=groups,dc=example,dc=com"])]⟩]⟩

/-- A request in `session` over an empty store, while the directory is down. -/
def firstRequest (session : Session) : Context Store :=
  { store := Store.empty, session := session
    directory := { packagers with opening := [.refused "server down"] }
    reply := none, trace := .empty }

/-- What comes of Carol's ticket. -/
def carolTicket (moment : Moment) (before : Context Store) :
    Except Fault User × Context Store :=
  ticketOnlyGateway.completeKerberos moment (some "carol@EXAMPLE.COM") before

/-- Carol's record with these groups. -/
def carolRecord (groups : Option GroupSet) (updatedAt : Int) : User :=
  { id := ⟨"1"⟩, name := "carol", mail := "carol@example.com", timezone := none, admin := false
    groups := groups, updatedAt := updatedAt }

/-- Without an old marker Carol's second attempt ends as her only one would have. -/
theorem completeKerberos_carolTwice :
    let before := firstRequest Table.empty
    let first := carolTicket ⟨⟨"1"⟩, 10⟩ before
    let retried := carolTicket ⟨⟨"2"⟩, 20⟩ (first.2.withDirectory packagers)
    before.store.WellFormed ∧ first.1 = .error (.directoryRefused "server down") ∧
      retried.1 = .ok (carolRecord (some ⟨some ["packager"]⟩) 20) ∧
      EndsAlike (Equiv.swap ⟨"1"⟩ ⟨"3"⟩) retried
        (carolTicket ⟨⟨"3"⟩, 30⟩ (before.withDirectory packagers)) := by
  intro before first retried
  have hfirst : carolTicket ⟨⟨"1"⟩, 10⟩ before =
      (.error (.directoryRefused "server down"), first.2) := rfl
  have hretried : retried.1 = .ok (carolRecord (some ⟨some ["packager"]⟩) 20) := rfl
  have hother : ¬ ticketOnlyGateway.Revives (some "carol@EXAMPLE.COM") before.session
      before.store := by
    rintro ⟨username, -, hmarked, -⟩
    cases hmarked
  have hstore : before.store.WellFormed := Store.wellFormed_empty
  obtain ⟨-, -, hends⟩ := completeKerberos_retried ticketOnlyGateway hstore rfl hfirst
  refine ⟨hstore, rfl, hretried, ?_⟩
  exact (hends ⟨⟨"2"⟩, 20⟩ ⟨⟨"3"⟩, 30⟩ packagers _ rfl hretried).mpr hother

/-- With an old marker of her name Carol's second attempt is taken for hers already, and
her groups are never asked for. -/
theorem completeKerberos_carolRevived :
    let before := firstRequest (Table.empty.put MechanismKind.directory.sessionKey "carol")
    let first := carolTicket ⟨⟨"1"⟩, 10⟩ before
    let retried := carolTicket ⟨⟨"2"⟩, 20⟩ (first.2.withDirectory packagers)
    let single := carolTicket ⟨⟨"1"⟩, 10⟩ (before.withDirectory packagers)
    ofSettings ticketOnly (Directory.Client.ofSettings? ticketOnly.auth) =
        .ok ticketOnlyGateway ∧
      before.store.WellFormed ∧ first.1 = .error (.directoryRefused "server down") ∧
      retried.1 = .ok (carolRecord none 10) ∧
      single.1 = .ok (carolRecord (some ⟨some ["packager"]⟩) 10) ∧
      ∀ σ, ¬ EndsAlike σ retried single := by
  intro before first retried single
  have hretried : retried.1 = .ok (carolRecord none 10) := rfl
  have hsingle : single.1 = .ok (carolRecord (some ⟨some ["packager"]⟩) 10) := rfl
  refine ⟨ofSettings_ticketOnly, Store.wellFormed_empty, rfl, hretried, hsingle, ?_⟩
  rintro σ ⟨⟨user, found, huser, hfound, halike⟩, -, -⟩
  rw [hretried] at huser
  rw [hsingle] at hfound
  obtain rfl := Except.ok.inj huser
  obtain rfl := Except.ok.inj hfound
  cases halike.groups_eq

end Gateway

end SignOn
