import SignOn.Proofs.Gateway.Action

/-!
# Sessions stay logged in as who logged in

Whatever the sessions of one store ask of a gateway, each of them is logged in as
the user of its own latest login, or as nobody (`currentUser_visits`).

The invariant is `Run.Sound`: the store is well-formed, its records have names, and
the name a session is marked with stands for the user of its latest login.
`Performed.stands` is the step, with one case for each call, and `sound_visits` the
induction over the visits.
-/

set_option autoImplicit false

namespace SignOn.Gateway

/-! ## What the marker of a session stands for -/

/-- The session is marked with a name of the record `id`, or with no name. -/
def Stands (gateway : Gateway) (session : Session) (store : Store) (id : Option UserId) : Prop :=
  (gateway.sessionName? session).map store.names.get? = id.map some

section Stands

variable {gateway : Gateway} {session : Session} {store after : Store}

/-- Only a session without a marker stands for nobody. -/
theorem stands_none_iff : gateway.Stands session store none ↔ gateway.marker? session = none := by
  rw [Stands, sessionName?, Option.map_map, Option.map_none, Option.map_eq_none_iff]

/-- A name of the session stands for its record. -/
theorem stands_of_name {name : String} {id : UserId}
    (hname : gateway.sessionName? session = some name) (hid : store.names.get? name = some id) :
    gateway.Stands session store (some id) := by
  rw [Stands, hname, Option.map_some, Option.map_some, hid]

/-- What a session stands for, it stands for in a store that has grown. -/
theorem Stands.grows {id : Option UserId} (h : gateway.Stands session store id)
    (hgrows : Store.Grows store after) : gateway.Stands session after id := by
  cases hname : gateway.sessionName? session with
  | none =>
      rw [Stands, hname] at h ⊢
      exact h
  | some name =>
      rw [Stands, hname] at h
      obtain ⟨found, rfl, hfound⟩ := Option.map_eq_some_iff.mp h.symm
      exact stands_of_name hname (hgrows name found hfound.symm)

/-- In a well-formed store the user of a session is the one it stands for. -/
theorem Stands.map_id_sessionUser? {id : Option UserId} (h : gateway.Stands session store id)
    (hstore : store.WellFormed) : (gateway.sessionUser? session store).map User.id = id := by
  rw [Gateway.map_id_sessionUser? gateway session hstore]
  cases hname : gateway.sessionName? session with
  | none =>
      rw [Stands, hname] at h
      exact (Option.map_eq_none_iff.mp h.symm).symm
  | some name =>
      rw [Stands, hname] at h
      obtain ⟨found, rfl, hfound⟩ := Option.map_eq_some_iff.mp h.symm
      exact hfound.symm

/-- A cleared session stands for nobody. -/
theorem stands_clearAll {settings : Settings} {directory : Option Directory.Client}
    (h : ofSettings settings directory = .ok gateway) :
    gateway.Stands session.clearAll store none :=
  stands_none_iff.mpr (marker?_eq_none h (marker?_clearAll session))

/-- A session with a federated marker stands for the claimed name. -/
theorem stands_federatedSession {settings : Settings} {directory : Option Directory.Client}
    (h : ofSettings settings directory = .ok gateway) {claims : Claims} {id : UserId}
    (hon : gateway.isEnabled .federated = true) (hidentity : claims.identityUrl ≠ "")
    (hid : store.names.get? (gateway.claimedName claims) = some id) :
    gateway.Stands (federatedSession claims session) store (some id) :=
  stands_of_name (sessionName?_federatedSession h hon hidentity session) hid

/-- A session of nobody with a Kerberos marker stands for the user of the marker. -/
theorem stands_kerberosSession {settings : Settings} {directory : Option Directory.Client}
    (h : ofSettings settings directory = .ok gateway) {user : User}
    (hon : gateway.isEnabled .directory = true) (hname : user.name ≠ "")
    (hnobody : gateway.Stands session store none)
    (hid : after.names.get? user.name = some user.id) :
    gateway.Stands (kerberosSession user session) after (some user.id) := by
  have hnone := identity?_eq_none h (stands_none_iff.mp hnobody)
  exact stands_of_name (sessionName?_kerberosSession h hon hnone hname) hid

end Stands

/-! ## One call -/

/-- What a call leaves of a well-formed store and of the session that made it. -/
structure Sustains (gateway : Gateway) (before : Context Store)
    (ending : Except Fault Answer × Context Store) : Prop where
  wellFormed : ending.2.store.WellFormed
  named : ending.2.store.Named
  /-- The names of other sessions keep standing for their users. -/
  grows : Store.Grows before.store ending.2.store
  /-- The session stands for who is logged in after the answer. -/
  stands : ∀ user : Option User, gateway.Stands before.session before.store (user.map User.id) →
    gateway.Stands ending.2.session ending.2.store ((loginAfter user ending.1).map User.id)

section Performing

variable {gateway : Gateway} {moment : Moment}

/-- A Kerberos login that succeeds leaves a session that stands for its user. -/
theorem KerberosLogin.stands {settings : Settings} {directory : Option Directory.Client}
    (h : ofSettings settings directory = .ok gateway) {remoteUser : Option String}
    {told : String → Except Fault GroupSet} {store after : Store} {session left : Session}
    {user : User}
    (hlogin : KerberosLogin gateway moment remoteUser told store session (.ok user) after left)
    (hstore : store.WellFormed) (hnamed : store.Named) {before : Option User}
    (hstands : gateway.Stands session store (before.map User.id)) :
    gateway.Stands left after (some user.id) := by
  have hbefore := hstands.map_id_sessionUser? hstore
  rcases hlogin.of_ok hstore hnamed with ⟨hsession, rfl, rfl⟩ | ⟨hon, hnobody, hname, hid, rfl⟩
  -- the session was logged in: the answer is the user it stands for
  · rw [hsession] at hbefore
    rw [← hbefore] at hstands
    exact hstands
  -- the session was nobody's: no federated marker hides the new one
  · rw [hnobody] at hbefore
    rw [← hbefore] at hstands
    exact stands_kerberosSession h hon hname hstands hid

/-- Whoever is logged in after an answer, the session stands for. -/
theorem Performed.stands {settings : Settings} {directory : Option Directory.Client}
    (h : ofSettings settings directory = .ok gateway) {before : Context Store} {action : Action}
    {answer : Except Fault Answer} {after : Store} {left : Session} {steps : List Directory.Step}
    (hperformed : Performed gateway moment before action answer after left steps)
    (hstore : before.store.WellFormed) (hnamed : before.store.Named) (user : Option User)
    (hstands : gateway.Stands before.session before.store (user.map User.id)) :
    gateway.Stands left after ((loginAfter user answer).map User.id) := by
  cases hperformed with
  | login kind next outcome =>
      cases outcome with
      | error fault => exact hstands
      | ok url => exact hstands
  | logout => exact stands_clearAll h
  | currentUser => exact hstands
  | @completeFederated claims outcome _ _ hlogin =>
      cases outcome with
      | error fault =>
          obtain ⟨rfl, rfl⟩ := hlogin.unchanged_of_error
          exact hstands
      | ok answered =>
          obtain ⟨hon, hidentity, hid, rfl⟩ := hlogin.of_ok hstore
          exact stands_federatedSession h hon hidentity hid
  | @completeKerberos remoteUser outcome _ _ hlogin =>
      cases outcome with
      | error fault =>
          obtain rfl := hlogin.session_of_error
          exact hstands.grows (hlogin.grows hstore)
      | ok answered => exact hlogin.stands h hstore hnamed hstands

/-- What every call keeps. -/
theorem perform_sustains {settings : Settings} {directory : Option Directory.Client}
    (h : ofSettings settings directory = .ok gateway) (action : Action) {context : Context Store}
    (hstore : context.store.WellFormed) (hnamed : context.store.Named)
    (hfresh : context.store.users.get? moment.id = none) :
    gateway.Sustains context (gateway.perform moment action context) := by
  obtain ⟨answer, after, left, steps, answers, events, hperformed, hend⟩ :=
    perform_apply gateway moment action hstore
  rw [hend]
  exact {
    wellFormed := hperformed.wellFormed hstore hfresh
    named := hperformed.named hstore hnamed
    grows := hperformed.grows hstore
    stands := hperformed.stands h hstore hnamed }

end Performing

/-! ## Runs -/

section Runs

variable {κ : Type} [DecidableEq κ] {gateway : Gateway}

/-- The store is well-formed and the sessions stand for their latest logins. -/
structure Run.Sound (gateway : Gateway) (run : Run κ) : Prop where
  wellFormed : run.store.WellFormed
  named : run.store.Named
  stands : ∀ session, gateway.Stands (run.sessions session) run.store
    ((lastLogin? session run.answers).map User.id)

/-- A run starts with sessions without markers. -/
theorem sound_start {settings : Settings} {directory : Option Directory.Client}
    (h : ofSettings settings directory = .ok gateway) {store : Store} {sessions : κ → Session}
    (hstore : store.WellFormed) (hnamed : store.Named)
    (hsessions : ∀ session kind, (sessions session).marker? kind = none) :
    Run.Sound gateway (.start store sessions) where
  wellFormed := hstore
  named := hnamed
  stands := fun session => stands_none_iff.mpr (marker?_eq_none h (hsessions session))

/-- A visit keeps a run sound. -/
theorem sound_visit {settings : Settings} {directory : Option Directory.Client}
    (h : ofSettings settings directory = .ok gateway) {run : Run κ} (visit : Visit κ)
    (hsound : Run.Sound gateway run) (hfresh : run.store.users.get? visit.moment.id = none) :
    Run.Sound gateway (run.visit gateway visit) := by
  have hsustains : gateway.Sustains (run.context visit.session visit.directory) _ :=
    perform_sustains h visit.action hsound.wellFormed hsound.named hfresh
  refine ⟨hsustains.wellFormed, hsustains.named, ?_⟩
  intro session
  by_cases hs : session = visit.session
  -- the session of the visit: the answer decides whom it stands for
  · subst hs
    have hstands := hsustains.stands _ (hsound.stands visit.session)
    simpa [Run.visit, lastLogin?] using hstands
  -- another session: its marker is as it was, and its name stands for the same record
  · have hstands := (hsound.stands session).grows hsustains.grows
    simpa [Run.visit, lastLogin?, hs, Ne.symm hs] using hstands

/-- Visits keep a run sound. -/
theorem sound_visits {settings : Settings} {directory : Option Directory.Client}
    (h : ofSettings settings directory = .ok gateway) (visits : List (Visit κ)) {run : Run κ}
    (hsound : Run.Sound gateway run) (hfresh : Run.FreshIds gateway run visits) :
    Run.Sound gateway (run.visits gateway visits) := by
  -- over the visits from the first, with the run after it in the place of `run`
  induction visits generalizing run with
  | nil => exact hsound
  | cons visit visits ih =>
      obtain ⟨hunused, hlater⟩ := hfresh
      exact ih (sound_visit h visit hsound hunused) hlater

/-- A logout is always answered as one (`logout_eq_ok`), so the answers tell of it. The session
that made it is nobody's from then on, and has no marker. -/
theorem lastLogin?_visit_logout (gateway : Gateway) (run : Run κ) {visit : Visit κ}
    (haction : visit.action = .logout) :
    let after := run.visit gateway visit
    after.answers = (visit.session, .ok .loggedOut) :: run.answers ∧
      lastLogin? visit.session after.answers = none ∧
      ∀ kind, (after.sessions visit.session).marker? kind = none := by
  intro after
  obtain ⟨events, hend⟩ := gateway.logout_apply (run.context visit.session visit.directory)
  have hperform : gateway.perform visit.moment visit.action
      (run.context visit.session visit.directory) = (.ok .loggedOut,
        ((run.context visit.session visit.directory).withSession
          (run.sessions visit.session).clearAll).logging events) := by
    rw [haction]
    exact Call.bind_of_ok hend
  have hanswers : after.answers = (visit.session, .ok .loggedOut) :: run.answers := by
    simp only [after, Run.visit, hperform]
  refine ⟨hanswers, ?_, ?_⟩
  · rw [hanswers, lastLogin?, if_pos rfl, loginAfter]
  · intro kind
    have hsession : after.sessions visit.session = (run.sessions visit.session).clearAll := by
      simp only [after, Run.visit, hperform, if_pos]
      rfl
    rw [hsession]
    exact marker?_clearAll _ kind

/-- After every run each session is logged in as the user of its own latest login
since its latest logout, and as nobody without such a login. -/
theorem currentUser_visits {settings : Settings} {directory : Option Directory.Client}
    (h : ofSettings settings directory = .ok gateway) {store : Store} {sessions : κ → Session}
    (hstore : store.WellFormed) (hnamed : store.Named)
    (hsessions : ∀ session kind, (sessions session).marker? kind = none)
    (visits : List (Visit κ)) (hfresh : Run.FreshIds gateway (.start store sessions) visits)
    (session : κ) (script : Directory.Script) :
    let run := (Run.start store sessions).visits gateway visits
    ∃ found, (gateway.currentUser (run.context session script)).1 = .ok found ∧
      found.map User.id = (lastLogin? session run.answers).map User.id := by
  intro run
  have hsound := sound_visits h visits (sound_start h hstore hnamed hsessions) hfresh
  obtain ⟨events, hcurrent⟩ := gateway.currentUser_apply (run.context session script)
  refine ⟨_, by rw [hcurrent], ?_⟩
  exact (hsound.stands session).map_id_sessionUser? hsound.wellFormed

end Runs

/-! ## Two sessions of one user -/

/-- Jane logs in at the provider on one session and by her ticket on another, a
stranger fails to take her first session over, and she logs out of it. -/
def janeVisits : List (Visit String) :=
  [⟨"desk", .completeFederated ⟨"http://[::1]/jane", some "jane@example.org", none, none⟩,
      ⟨⟨"1"⟩, 10⟩, nobodyScript⟩,
    ⟨"phone", .completeKerberos (some "jane@EXAMPLE.ORG"), ⟨⟨"2"⟩, 20⟩, nobodyScript⟩,
    ⟨"desk", .completeFederated ⟨"http://[::1]/bob", none, none, none⟩, ⟨⟨"2"⟩, 30⟩, nobodyScript⟩,
    ⟨"desk", .logout, ⟨⟨"2"⟩, 40⟩, nobodyScript⟩]

/-- Jane stays logged in on the other session, as the user her first login made. -/
theorem currentUser_janeVisits :
    ofSettings bothWays none = .ok bothWaysGateway ∧
    Run.FreshIds bothWaysGateway (.start Store.empty fun _ => Table.empty) janeVisits ∧
    ∃ found, (bothWaysGateway.currentUser
        (((Run.start Store.empty fun _ => Table.empty).visits bothWaysGateway janeVisits).context
          "phone" nobodyScript)).1 = .ok found ∧
      found.map User.id = some ⟨"1"⟩ := by
  have hgateway : ofSettings bothWays none = .ok bothWaysGateway := rfl
  have hfresh : Run.FreshIds bothWaysGateway (.start Store.empty fun _ => Table.empty)
      janeVisits := by decide +kernel
  have hlast : (lastLogin? "phone" ((Run.start Store.empty fun _ => Table.empty).visits
      bothWaysGateway janeVisits).answers).map User.id = some ⟨"1"⟩ := by decide +kernel
  obtain ⟨found, hcurrent, hid⟩ := currentUser_visits hgateway Store.wellFormed_empty
    Store.named_empty (fun _ _ => rfl) janeVisits hfresh "phone" nobodyScript
  exact ⟨hgateway, hfresh, found, hcurrent, hid.trans hlast⟩

end SignOn.Gateway
