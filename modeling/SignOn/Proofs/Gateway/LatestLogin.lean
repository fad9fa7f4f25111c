import SignOn.Proofs.Gateway.History

/-!
# The latest login wins

What a run makes of a user record is read from the run alone: `made?` is the record with
which the user began, `loginsOf` are the logins that were saved on it, and `afterLogins`
says what each field of the record is after them. `users_visits` says that this is the
record in the store.

A call first provides a user, which adds at most one record (`Provides`), and then saves
at most one login on a record that is there (`Saves`); `Performed.stages` is the step and
`Run.users_get?_visits` the induction over the visits.
-/

set_option autoImplicit false

namespace SignOn.Gateway

open SignOn.Provisioner

/-! ## What logins make of a record -/

/-- A login that was saved on its user. -/
structure SavedLogin where
  user : UserId
  time : Int
  /-- The claims of a federated login. -/
  claims : Option Claims
  groups : GroupSet
deriving Repr, DecidableEq

/-- The e-mail a login carried. -/
def SavedLogin.mail? (login : SavedLogin) : Option String :=
  login.claims.bind Claims.email

/-- The record of a user after logins, the latest one last: the groups and the time are
those of the latest login, the timezone is that of the latest federated login, and the
e-mail that of the latest login that carried one. -/
def afterLogins (logins : List SavedLogin) (origin : User) : User :=
  { origin with
    mail := (logins.filterMap SavedLogin.mail?).getLast?.getD origin.mail
    timezone :=
      ((logins.filterMap SavedLogin.claims).getLast?.map Claims.timezone).getD origin.timezone
    groups := (logins.getLast?.map fun login => some login.groups).getD origin.groups
    updatedAt := (logins.getLast?.map SavedLogin.time).getD origin.updatedAt }

/-- Without logins a record stays as it was. -/
theorem afterLogins_nil : afterLogins [] = id := rfl

/-- Of two parts of a list the later one decides, where it has anything to say. -/
theorem getD_getLast?_append {α β : Type} (earlier later : List α) (read : α → β) (origin : β) :
    ((earlier ++ later).getLast?.map read).getD origin =
      (later.getLast?.map read).getD ((earlier.getLast?.map read).getD origin) := by
  rw [List.getLast?_append]
  cases later.getLast? with
  | none => rfl
  | some last => rfl

/-- Logins act one after the other. -/
theorem afterLogins_append (earlier later : List SavedLogin) (origin : User) :
    afterLogins (earlier ++ later) origin = afterLogins later (afterLogins earlier origin) := by
  have hmail := getD_getLast?_append (earlier.filterMap SavedLogin.mail?)
    (later.filterMap SavedLogin.mail?) id origin.mail
  have hzone := getD_getLast?_append (earlier.filterMap SavedLogin.claims)
    (later.filterMap SavedLogin.claims) Claims.timezone origin.timezone
  have hgroups := getD_getLast?_append earlier later (fun login => some login.groups) origin.groups
  have htime := getD_getLast?_append earlier later SavedLogin.time origin.updatedAt
  simp only [Option.map_id_fun, id_eq] at hmail
  simp only [afterLogins, List.filterMap_append, hmail, hzone, hgroups, htime]

/-- After a federated login. -/
theorem afterLogins_federated (moment : Moment) (claims : Claims) (user : User) :
    afterLogins [⟨user.id, moment.time, some claims, ⟨claims.teams⟩⟩] user =
      federatedRecord moment claims user := by
  cases hmail : claims.email with
  | none => simp [afterLogins, SavedLogin.mail?, hmail, federatedRecord, settledRecord, withClaims]
  | some mail =>
      simp [afterLogins, SavedLogin.mail?, hmail, federatedRecord, settledRecord, withClaims]

/-- After a Kerberos login. -/
theorem afterLogins_kerberos (moment : Moment) (groups : GroupSet) (user : User) :
    afterLogins [⟨user.id, moment.time, none, groups⟩] user =
      settledRecord moment.time groups user := rfl

/-! ## What a call does to the records -/

/-- The login that an answer tells to be saved. A Kerberos login by a session that is
logged in answers with its user and saves nothing. -/
def saved? (gateway : Gateway) (moment : Moment) (before : Context Store) (action : Action)
    (answer : Except Fault Answer) : Option SavedLogin :=
  match action, answer with
  | .completeFederated claims, .ok (.loggedIn user) =>
    some ⟨user.id, moment.time, some claims, ⟨claims.teams⟩⟩
  | .completeKerberos remoteUser, .ok (.loggedIn user) =>
    if gateway.sessionUser? before.session before.store = none then
      ((presented? remoteUser).bind fun name =>
        (gateway.groups.told name before.directory).toOption).map fun groups =>
          ⟨user.id, moment.time, none, groups⟩
    else none
  | _, _ => none

/-- What is known of the user whom a login makes. -/
def newUser? (gateway : Gateway) : Action → Option NewUser
  | .completeFederated claims =>
    claims.email.map fun mail => ⟨gateway.claimedName claims, mail, claims.timezone⟩
  | .completeKerberos remoteUser =>
    (presented? remoteUser).bind fun name =>
      gateway.provisioner.emailDomain.map fun domain => ⟨name, name ++ "@" ++ domain, none⟩
  | .login .. | .logout | .currentUser => none

/-- The record a call makes: one that was not there before and is there after. -/
def made? (gateway : Gateway) (moment : Moment) (before : Store) (action : Action)
    (after : Store) : Option User :=
  if before.users.get? moment.id = none ∧ (after.users.get? moment.id).isSome then
    (gateway.newUser? action).map (Store.newRecord moment)
  else none

/-- A user is provided: at most the record of a new one is added. -/
def Provides (gateway : Gateway) (moment : Moment) (action : Action) (before after : Store) :
    Prop :=
  after.users = before.users ∨
    ∃ new, gateway.newUser? action = some new ∧
      after.users = before.users.put moment.id (Store.newRecord moment new)

/-- A login is saved on the record of its user, if there is one to save. -/
inductive Saves (before after : Store) : Option SavedLogin → Prop
  | nothing (hsame : after.users = before.users) : Saves before after none
  | login (user : User) {login : SavedLogin} (hid : login.user = user.id)
      (huser : before.users.get? user.id = some user)
      (hafter : after = before.replace (afterLogins [login] user)) : Saves before after (some login)

/-- What a saved login makes of each record. -/
theorem Saves.users_get? {before after : Store} {saved : Option SavedLogin}
    (h : Saves before after saved) (id : UserId) :
    after.users.get? id =
      (before.users.get? id).map (afterLogins (saved.toList.filter (·.user = id))) := by
  cases h with
  | nothing hsame =>
      rw [hsame, Option.toList_none, List.filter_nil, afterLogins_nil, Option.map_id]
      rfl
  | @login user login hid huser hafter =>
      subst hafter
      have hrecord : (afterLogins [login] user).id = user.id := rfl
      rw [Store.replace, hrecord]
      by_cases h : user.id = id
      · subst h
        simp [hid, huser]
      -- the record of another user stays
      · have hother : login.user ≠ id := hid ▸ h
        simp [Table.get?_put_of_ne _ _ h, hother, afterLogins_nil]

/-- The user of a saved login has a record. -/
theorem Saves.users_get?_of_some {before after : Store} {login : SavedLogin}
    (h : Saves before after (some login)) : ∃ user, before.users.get? login.user = some user := by
  cases h with
  | @login user _ hid huser => exact ⟨user, hid ▸ huser⟩

section Provides

variable {gateway : Gateway} {moment : Moment} {action : Action} {before middle after : Store}

/-- The record that was provided is the one that is there in the end, where a record stays
under the identifier of the call. -/
theorem Provides.users_get? (h : gateway.Provides moment action before middle)
    (hfresh : before.users.get? moment.id = none)
    (hkept : (after.users.get? moment.id).isSome = (middle.users.get? moment.id).isSome)
    (id : UserId) : middle.users.get? id =
      (before.users.get? id).or
        ((gateway.made? moment before action after).toList.find? (·.id = id)) := by
  rcases h with hsame | ⟨new, hnew, hadded⟩
  · have hnone : gateway.made? moment before action after = none := by
      rw [made?, hkept, hsame, hfresh]
      simp
    simp [hnone, hsame]
  · have hsome : gateway.made? moment before action after =
        some (Store.newRecord moment new) := by
      rw [made?, hkept, hadded, hfresh, hnew]
      simp
    have hid : (Store.newRecord moment new).id = moment.id := rfl
    rw [hadded, hsome]
    by_cases h : moment.id = id
    · subst h
      simp [hfresh, hid]
    · simp [Table.get?_put_of_ne _ _ h, hid, h]

end Provides

/-! ## The stages of a call -/

/-- Finding the user of a principal provides a user for its login. -/
theorem BoundUser.provides {gateway : Gateway} {moment : Moment} {remoteUser : Option String}
    {username : String} {store after : Store} {outcome : Except Fault User}
    (h : BoundUser gateway moment username store outcome after)
    (hname : presented? remoteUser = some username) :
    gateway.Provides moment (.completeKerberos remoteUser) store after := by
  cases h with
  | bound | found | unknown | domainless => exact Or.inl rfl
  | new _ _ _ hdomain huser =>
      subst huser
      exact Or.inr ⟨_, by simp [newUser?, hname, hdomain], rfl⟩

section Stages

variable {gateway : Gateway} {moment : Moment} {before : Context Store} {after : Store}
  {left : Session} {outcome : Except Fault User}

/-- The stages of a federated login. -/
theorem FederatedLogin.stages {claims : Claims}
    (h : FederatedLogin gateway moment claims before.store before.session outcome after left)
    (hstore : before.store.WellFormed) :
    ∃ middle, gateway.Provides moment (.completeFederated claims) before.store middle ∧
      Saves middle after (gateway.saved? moment before (.completeFederated claims)
        (outcome.map .loggedIn)) := by
  cases h with
  | refused | off | mailless => exact ⟨before.store, Or.inl rfl, .nothing rfl⟩
  | @known user _ _ hfound =>
      obtain ⟨hold, -⟩ := (Store.userNamed?_eq_some_iff hstore).mp hfound
      refine ⟨before.store, Or.inl rfl, .login user rfl hold ?_⟩
      rw [← afterLogins_federated moment claims user]
      rfl
  | @new mail user _ _ _ hmail huser =>
      refine ⟨before.store.insert moment user, Or.inr ⟨user, ?_, rfl⟩,
        .login (Store.newRecord moment user) rfl Store.users_get?_insert_self ?_⟩
      · simp [newUser?, hmail, huser]
      · rw [← afterLogins_federated moment claims (Store.newRecord moment user)]
        rfl

/-- The stages of a Kerberos login. -/
theorem KerberosLogin.stages {remoteUser : Option String}
    (h : KerberosLogin gateway moment remoteUser
      (fun name => gateway.groups.told name before.directory) before.store before.session outcome
      after left)
    (hstore : before.store.WellFormed) :
    ∃ middle, gateway.Provides moment (.completeKerberos remoteUser) before.store middle ∧
      Saves middle after (gateway.saved? moment before (.completeKerberos remoteUser)
        (kerberosAnswer outcome)) := by
  cases h with
  | off | nameless | invalid => exact ⟨before.store, Or.inl rfl, .nothing rfl⟩
  | @already user hon huser =>
      have hnothing : gateway.saved? moment before (.completeKerberos remoteUser)
          (kerberosAnswer (.ok user)) = none := by
        simp [saved?, huser]
      rw [hnothing]
      exact ⟨before.store, Or.inl rfl, .nothing rfl⟩
  | userless _ _ hname hbound => exact ⟨after, hbound.provides hname, .nothing rfl⟩
  -- the user that was found stays when its groups are not told
  | groupless _ _ hname hbound => exact ⟨after, hbound.provides hname, .nothing rfl⟩
  | @done username user groups middle _ hnobody hname hbound htold =>
      have hlogin : gateway.saved? moment before (.completeKerberos remoteUser)
          (kerberosAnswer (.ok (settledRecord moment.time groups user))) =
            some ⟨user.id, moment.time, none, groups⟩ := by
        simp [saved?, hnobody, hname, htold, Except.toOption, settledRecord]
      rw [hlogin]
      refine ⟨middle, hbound.provides hname, .login user rfl (hbound.stored hstore) ?_⟩
      rw [afterLogins_kerberos]

/-- A call provides a user and then saves a login, and does no more to the records. -/
theorem Performed.stages {action : Action} {answer : Except Fault Answer}
    {steps : List Directory.Step}
    (h : Performed gateway moment before action answer after left steps)
    (hstore : before.store.WellFormed) :
    ∃ middle, gateway.Provides moment action before.store middle ∧
      Saves middle after (gateway.saved? moment before action answer) := by
  cases h with
  | login | logout | currentUser => exact ⟨before.store, Or.inl rfl, .nothing rfl⟩
  | completeFederated hlogin => exact hlogin.stages hstore
  | completeKerberos hlogin => exact hlogin.stages hstore

end Stages

/-! ## Turns and runs -/

/-- The login that a turn saves. -/
def Turn.saved? (gateway : Gateway) (turn : Turn) : Option SavedLogin :=
  Gateway.saved? gateway turn.moment turn.before turn.action (turn.answer gateway)

/-- The record that a turn makes. -/
def Turn.made? (gateway : Gateway) (turn : Turn) : Option User :=
  Gateway.made? gateway turn.moment turn.before.store turn.action (turn.after gateway).store

/-- The logins of one user in a history, the latest one last. -/
def loginsOf (gateway : Gateway) (id : UserId) (history : List Turn) : List SavedLogin :=
  (history.filterMap (Turn.saved? gateway)).filter (·.user = id)

/-- The record with which a user begins in a history. -/
def madeUser? (gateway : Gateway) (id : UserId) (history : List Turn) : Option User :=
  (history.filterMap (Turn.made? gateway)).find? (·.id = id)

section Histories

variable (gateway : Gateway) (id : UserId)

theorem loginsOf_cons (turn : Turn) (later : List Turn) :
    loginsOf gateway id (turn :: later) =
      (turn.saved? gateway).toList.filter (·.user = id) ++ loginsOf gateway id later := by
  cases hsaved : turn.saved? gateway with
  | none => simp [loginsOf, hsaved]
  | some login => by_cases h : login.user = id <;> simp [loginsOf, hsaved, h]

theorem madeUser?_cons (turn : Turn) (later : List Turn) :
    madeUser? gateway id (turn :: later) =
      ((turn.made? gateway).toList.find? (·.id = id)).or (madeUser? gateway id later) := by
  cases hmade : turn.made? gateway with
  | none => simp [madeUser?, hmade]
  | some user => by_cases h : user.id = id <;> simp [madeUser?, hmade, h]

/-- What a turn makes of each record. -/
theorem Turn.Proper.users_get? {turn : Turn} (h : turn.Proper) :
    (turn.after gateway).store.users.get? id =
        ((turn.before.store.users.get? id).or
          ((turn.made? gateway).toList.find? (·.id = id))).map
            (afterLogins ((turn.saved? gateway).toList.filter (·.user = id))) ∧
      ((turn.before.store.users.get? id).or
          ((turn.made? gateway).toList.find? (·.id = id)) = none →
        (turn.saved? gateway).toList.filter (·.user = id) = []) := by
  obtain ⟨middle, hprovides, hsaves⟩ := (h.performed gateway).stages h.wellFormed
  -- saving a login adds no record
  have hkept : ((turn.after gateway).store.users.get? turn.moment.id).isSome =
      (middle.users.get? turn.moment.id).isSome := by
    rw [hsaves.users_get? turn.moment.id, Option.isSome_map]
  have hmiddle := hprovides.users_get? h.fresh hkept id
  refine ⟨?_, ?_⟩
  · rw [hsaves.users_get? id, hmiddle]
    rfl
  · intro hnone
    refine List.filter_eq_nil_iff.mpr ?_
    intro login hlogin huser
    have hsaved : turn.saved? gateway = some login := Option.mem_toList.mp hlogin
    rw [Turn.saved?] at hsaved
    rw [hsaved] at hsaves
    obtain ⟨user, hfound⟩ := hsaves.users_get?_of_some
    rw [of_decide_eq_true huser, hmiddle] at hfound
    rw [Turn.made?, hfound] at hnone
    cases hnone

/-- What visits make of each record. -/
theorem Run.users_get?_visits {κ : Type} [DecidableEq κ] (visits : List (Visit κ)) {run : Run κ}
    (hstore : run.store.WellFormed) (hfresh : FreshIds gateway run visits) :
    (run.visits gateway visits).store.users.get? id =
      ((run.store.users.get? id).or (madeUser? gateway id (run.history gateway visits))).map
        (afterLogins (loginsOf gateway id (run.history gateway visits))) := by
  -- over the visits from the first, with the run after it in the place of `run`
  induction visits generalizing run with
  | nil =>
      have hnothing : loginsOf gateway id (run.history gateway []) = [] := rfl
      have hnobody : madeUser? gateway id (run.history gateway []) = none := rfl
      rw [hnothing, hnobody, Option.or_none, afterLogins_nil, Option.map_id]
      rfl
  | cons visit visits ih =>
      obtain ⟨hunused, hlater⟩ := hfresh
      obtain ⟨hfirst, hnone⟩ := (proper_turn hstore hunused).users_get? gateway id
      have hrest := ih (wellFormed_visit hstore hunused) hlater
      rw [store_visit, hfirst] at hrest
      rw [Run.history, loginsOf_cons, madeUser?_cons, ← Option.or_assoc]
      refine hrest.trans ?_
      -- a record that is there goes on; one that is not was logged in by nobody
      cases hbegun : (run.store.users.get? id).or
          (((run.turn visit).made? gateway).toList.find? (·.id = id)) with
      | some user =>
          have hthen : (run.turn visit).before.store = run.store := rfl
          simp [hthen, hbegun, afterLogins_append]
      | none =>
          have hthen : (run.turn visit).before.store = run.store := rfl
          rw [hthen] at hnone
          simp [hthen, hbegun, hnone hbegun]

/-- The record with which a user begins is made by a turn. -/
theorem exists_of_madeUser? {history : List Turn} {user : User}
    (h : madeUser? gateway id history = some user) :
    ∃ turn ∈ history, ∃ new, gateway.newUser? turn.action = some new ∧
      user = Store.newRecord turn.moment new ∧ user.id = id ∧
      ((turn.after gateway).store.users.get? turn.moment.id).isSome := by
  rw [madeUser?] at h
  have hid := List.find?_some h
  obtain ⟨turn, hturn, hmade⟩ := List.mem_filterMap.mp (List.mem_of_find?_eq_some h)
  rw [Turn.made?, Gateway.made?] at hmade
  split at hmade
  · next hadded =>
      obtain ⟨new, hnew, rfl⟩ := Option.map_eq_some_iff.mp hmade
      exact ⟨turn, hturn, new, hnew, rfl, of_decide_eq_true hid, hadded.2⟩
  · cases hmade

end Histories

/-- A user may build in the groups of its latest login, and in no other. -/
theorem canBuildIn_afterLogins {logins : List SavedLogin} {login : SavedLogin}
    (hlatest : logins.getLast? = some login) (origin : User) (group : String) :
    (afterLogins logins origin).canBuildIn group = true ↔ group ∈ login.groups.toList := by
  rw [User.canBuildIn, afterLogins, hlatest]
  exact GroupSet.contains_iff login.groups group

/-- After every run each record is the one at its beginning, in the store or made in the
run, after the logins that were saved on it: without a login it is as it was, a user made
in the run is no administrator, and a user may build in exactly the groups of its latest
login. -/
theorem users_visits {κ : Type} [DecidableEq κ] (gateway : Gateway) {store : Store}
    {sessions : κ → Session} (hstore : store.WellFormed) (visits : List (Visit κ))
    (hfresh : Run.FreshIds gateway (.start store sessions) visits) :
    let start := Run.start store sessions
    let users := (start.visits gateway visits).store.users
    let history := start.history gateway visits
    ∀ id,
      users.get? id = ((store.users.get? id).or (madeUser? gateway id history)).map
          (afterLogins (loginsOf gateway id history)) ∧
        (loginsOf gateway id history = [] → ∀ user, store.users.get? id = some user →
          users.get? id = some user) ∧
        (∀ user, users.get? id = some user → store.users.get? id = none →
          user.admin = false) ∧
        (∀ user login, users.get? id = some user →
          (loginsOf gateway id history).getLast? = some login →
            ∀ group, user.canBuildIn group = true ↔ group ∈ login.groups.toList) := by
  intro start users history id
  have hrecord : users.get? id = ((store.users.get? id).or (madeUser? gateway id history)).map
      (afterLogins (loginsOf gateway id history)) :=
    start.users_get?_visits gateway id visits hstore hfresh
  refine ⟨hrecord, ?_, ?_, ?_⟩
  · intro hnone user huser
    rw [hrecord, huser, hnone, afterLogins_nil]
    rfl
  · intro user huser hnew
    rw [hrecord, hnew, Option.none_or] at huser
    obtain ⟨origin, horigin, rfl⟩ := Option.map_eq_some_iff.mp huser
    obtain ⟨_, _, _, _, rfl, _⟩ := exists_of_madeUser? gateway id horigin
    rfl
  · intro user login huser hlatest group
    rw [hrecord] at huser
    obtain ⟨origin, -, rfl⟩ := Option.map_eq_some_iff.mp huser
    exact canBuildIn_afterLogins hlatest origin group

/-! ### Jane loses her groups -/

/-- Jane logs in at the provider with a group and a timezone, then by her ticket, which
tells no groups; on the first session her ticket is not looked at. Bob cannot log in
without an e-mail. -/
def janeTwice : List (Visit String) :=
  [⟨"desk", .completeFederated ⟨"http://[::1]/jane", none, some "UTC", some ["qa"]⟩,
      ⟨⟨"2"⟩, 20⟩, nobodyScript⟩,
    ⟨"phone", .completeKerberos (some "jane@EXAMPLE.ORG"), ⟨⟨"2"⟩, 30⟩, nobodyScript⟩,
    ⟨"desk", .completeKerberos (some "jane@EXAMPLE.ORG"), ⟨⟨"2"⟩, 40⟩, nobodyScript⟩,
    ⟨"desk", .completeFederated ⟨"http://[::1]/bob", none, none, none⟩, ⟨⟨"2"⟩, 50⟩,
      nobodyScript⟩]

/-- Nothing is left of her group, and her mail and her timezone stay. -/
theorem users_janeTwice :
    let start := Run.start janeStore fun _ : String => Table.empty
    let users := (start.visits bothWaysGateway janeTwice).store.users
    janeStore.WellFormed ∧ start.FreshIds bothWaysGateway janeTwice ∧
      users.get? ⟨"1"⟩ =
        some ⟨⟨"1"⟩, "jane", "jane@example.org", some "UTC", false, some ⟨none⟩, 30⟩ ∧
      (∀ user, users.get? ⟨"1"⟩ = some user → ¬ user.canBuildIn "qa") ∧
      users.get? ⟨"2"⟩ = none := by
  intro start users
  have hfresh : start.FreshIds bothWaysGateway janeTwice := by decide +kernel
  have hall := users_visits bothWaysGateway wellFormed_janeStore janeTwice hfresh
  obtain ⟨hjane, -, -, hbuilds⟩ := hall ⟨"1"⟩
  obtain ⟨hbob, -⟩ := hall ⟨"2"⟩
  have hlatest : (loginsOf bothWaysGateway ⟨"1"⟩
      (start.history bothWaysGateway janeTwice)).getLast? =
        some ⟨⟨"1"⟩, 30, none, ⟨none⟩⟩ := by decide +kernel
  refine ⟨wellFormed_janeStore, hfresh, hjane.trans (by decide +kernel), ?_,
    hbob.trans (by decide +kernel)⟩
  intro user huser hbuild
  have hgroup := (hbuilds user _ huser hlatest "qa").mp hbuild
  cases hgroup

end SignOn.Gateway
