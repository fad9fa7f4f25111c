import SignOn.Proofs.Gateway.GroupSource
import SignOn.Proofs.Gateway.KerberosSession

/-!
# The list of allowed users

With a list of allowed users a federated login lets in nobody else. A Kerberos login does
not look at the list: `Overlooks` is such a login by a user who is not on it, and a run
keeps to the list exactly when it has none (`onlyAllowed_iff`). The invariant is
`MarkedAllowed`: the name of a session is on the list, whether or not somebody has it.

What settings rule such logins out is the other half of `allowed_visits`: no Kerberos
login may be able to complete, because it is off or because nobody would tell its groups.
Everywhere else a stranger who is known to the store walks in (`overlooks_stranger`).
-/

set_option autoImplicit false

namespace SignOn.Gateway

/-! ## Names of sessions -/

/-- The name the session is marked with, if any, is on the list. -/
def MarkedAllowed (gateway : Gateway) (allowed : List String) (session : Session) : Prop :=
  ∀ name, gateway.sessionName? session = some name → name ∈ allowed

/-- A user whom the list lets log in is on it. -/
theorem mem_allowed_of_isAllowed {provisioner : Provisioner} {username : String}
    (hlist : provisioner.useAllowList = true) (h : provisioner.isAllowed username = true) :
    username ∈ provisioner.allowed := by
  rw [Provisioner.isAllowed, hlist, Bool.and_eq_true] at h
  simpa using h.2

section OfSettings

variable {settings : Settings} {directory : Option Directory.Client} {gateway : Gateway}

/-- After a Kerberos login the session has the name of the login, or still the one it
had. -/
theorem name_of_kerberosSession (h : ofSettings settings directory = .ok gateway) {user : User}
    {session : Session} {name : String}
    (hname : gateway.sessionName? (kerberosSession user session) = some name) :
    name = user.name ∨ gateway.sessionName? session = some name := by
  have hkept : gateway.identity? (kerberosSession user session) = gateway.identity? session :=
    identity?_kerberosSession gateway user session
  cases hidentity : gateway.identity? session with
  -- an identity decides before and after
  | some identity =>
      rw [hidentity] at hkept
      rw [sessionName?, marker?_of_identity h hkept] at hname
      rw [sessionName?, marker?_of_identity h hidentity]
      exact Or.inr hname
  -- without one no name is left but that of the login
  | none =>
      rw [hidentity] at hkept
      have hmarker : (kerberosSession user session).marker? .directory =
          (some user.name).filter (· ≠ "") := by
        rw [Session.marker?, kerberosSession, Table.get?_put_self]
      rw [sessionName?, marker?_of_identity_none h hkept, hmarker] at hname
      split at hname
      · obtain ⟨⟨kind, marker⟩, hfound, rfl⟩ := Option.map_eq_some_iff.mp hname
        obtain ⟨found, hfilter, hpair⟩ := Option.map_eq_some_iff.mp hfound
        obtain ⟨rfl, rfl⟩ := Prod.mk.inj hpair
        exact Or.inl (Option.some.inj (Option.filter_eq_some_iff.mp hfilter).1).symm
      · cases hname

end OfSettings

/-! ## One call -/

/-- A Kerberos login lets somebody into a session of nobody who is not on the list. -/
def Overlooks (gateway : Gateway) (allowed : List String) (turn : Turn) : Prop :=
  ∃ remoteUser user, turn.action = .completeKerberos remoteUser ∧
    gateway.sessionUser? turn.before.session turn.before.store = none ∧
    turn.answer gateway = .ok (.loggedIn user) ∧ user.name ∉ allowed

section Calls

variable {settings : Settings} {directory : Option Directory.Client} {gateway : Gateway}

/-- The user of a session that is marked with a name on the list is on it. -/
theorem MarkedAllowed.user {allowed : List String} {session : Session} {store : Store}
    {user : User} (h : gateway.MarkedAllowed allowed session) (hstore : store.WellFormed)
    (huser : gateway.sessionUser? session store = some user) : user.name ∈ allowed := by
  obtain ⟨name, hname, hfound⟩ := Option.bind_eq_some_iff.mp huser
  obtain ⟨-, rfl⟩ := (Store.userNamed?_eq_some_iff hstore).mp hfound
  exact h _ hname

/-- A session without markers is marked with no name. -/
theorem markedAllowed_of_unmarked (h : ofSettings settings directory = .ok gateway)
    (allowed : List String) {session : Session} (hnone : ∀ kind, session.marker? kind = none) :
    gateway.MarkedAllowed allowed session := by
  intro name hname
  rw [sessionName?, marker?_eq_none h hnone] at hname
  cases hname

/-- A federated login that succeeds is one of a user on the list, and marks the session with
its name. -/
theorem FederatedLogin.allowed (h : ofSettings settings directory = .ok gateway)
    (hlist : settings.auth.useAllowList = true) {moment : Moment} {claims : Claims}
    {store after : Store} {session left : Session} {user : User}
    (hlogin : FederatedLogin gateway moment claims store session (.ok user) after left)
    (hstore : store.WellFormed) :
    user.name ∈ settings.auth.allowed ∧ gateway.MarkedAllowed settings.auth.allowed left := by
  obtain ⟨hprovisioner, -, -⟩ := ofSettings_parts h
  obtain ⟨hon, hidentity, -, rfl⟩ := hlogin.of_ok hstore
  obtain ⟨hallowed, hname, -⟩ := hlogin.stored_of_ok hstore
  have hmem : gateway.claimedName claims ∈ settings.auth.allowed := by
    have hgate := mem_allowed_of_isAllowed (by rw [hprovisioner]; exact hlist) hallowed
    rwa [hprovisioner] at hgate
  refine ⟨hname ▸ hmem, ?_⟩
  intro name hmarked
  rw [sessionName?_federatedSession h hon hidentity] at hmarked
  exact Option.some.inj hmarked ▸ hmem

/-- Only while Kerberos login is on does such a login succeed. -/
theorem KerberosLogin.enabled_of_ok {moment : Moment} {remoteUser : Option String}
    {told : String → Except Fault GroupSet} {store after : Store} {session left : Session}
    {user : User}
    (hlogin : KerberosLogin gateway moment remoteUser told store session (.ok user) after left) :
    gateway.isEnabled .directory = true := by
  cases hlogin with
  | already hon => exact hon
  | done hon => exact hon

/-- A Kerberos login on a session marked with a name on the list answers with a user on the
list and leaves such a session, unless it lets in a stranger. -/
theorem KerberosLogin.allowed (h : ofSettings settings directory = .ok gateway)
    {allowed : List String} {moment : Moment} {remoteUser : Option String}
    {told : String → Except Fault GroupSet} {store after : Store} {session left : Session}
    {user : User}
    (hlogin : KerberosLogin gateway moment remoteUser told store session (.ok user) after left)
    (hstore : store.WellFormed) (hmarked : gateway.MarkedAllowed allowed session)
    (hstranger : gateway.sessionUser? session store = none → user.name ∈ allowed) :
    user.name ∈ allowed ∧ gateway.MarkedAllowed allowed left := by
  cases hlogin with
  | already _ huser => exact ⟨hmarked.user hstore huser, hmarked⟩
  | @done username user groups middle _ hnobody =>
      have hmem : user.name ∈ allowed := hstranger hnobody
      refine ⟨hmem, ?_⟩
      intro name hname
      rcases name_of_kerberosSession h hname with rfl | hbefore
      · exact hmem
      · exact hmarked name hbefore

/-- A call that lets in no stranger by a ticket answers with a user on the list, if with any,
and leaves the session marked with a name on the list, if with any. -/
theorem Performed.allowed (h : ofSettings settings directory = .ok gateway)
    (hlist : settings.auth.useAllowList = true) {moment : Moment} {before : Context Store}
    {action : Action} {answer : Except Fault Answer} {after : Store} {left : Session}
    {steps : List Directory.Step}
    (hperformed : Performed gateway moment before action answer after left steps)
    (hstore : before.store.WellFormed)
    (hmarked : gateway.MarkedAllowed settings.auth.allowed before.session)
    (hstranger : ∀ remoteUser user, action = .completeKerberos remoteUser →
      gateway.sessionUser? before.session before.store = none →
        answer = .ok (.loggedIn user) → user.name ∈ settings.auth.allowed) :
    (∀ user, answer = .ok (.loggedIn user) → user.name ∈ settings.auth.allowed) ∧
      gateway.MarkedAllowed settings.auth.allowed left := by
  cases hperformed with
  | login kind next outcome =>
      refine ⟨?_, hmarked⟩
      intro user huser
      cases outcome <;> cases huser
  | logout =>
      refine ⟨?_, markedAllowed_of_unmarked h _ (marker?_clearAll before.session)⟩
      intro user huser
      cases huser
  | currentUser =>
      refine ⟨?_, hmarked⟩
      intro user huser
      cases huser
  | @completeFederated claims outcome _ _ hlogin =>
      cases outcome with
      | error fault =>
          obtain ⟨-, rfl⟩ := hlogin.unchanged_of_error
          refine ⟨?_, hmarked⟩
          intro user huser
          cases huser
      | ok answered =>
          obtain ⟨hmem, hleft⟩ := hlogin.allowed h hlist hstore
          refine ⟨?_, hleft⟩
          intro user huser
          obtain rfl := Except.ok.inj (map_loggedIn_eq_ok_iff.mp huser)
          exact hmem
  | @completeKerberos remoteUser outcome _ _ hlogin =>
      cases outcome with
      | error fault =>
          obtain rfl := hlogin.session_of_error
          refine ⟨?_, hmarked⟩
          intro user huser
          cases huser
      | ok answered =>
          obtain ⟨hmem, hleft⟩ := hlogin.allowed h hstore hmarked fun hnobody =>
            hstranger remoteUser answered rfl hnobody rfl
          refine ⟨?_, hleft⟩
          intro user huser
          obtain rfl := Except.ok.inj (kerberosAnswer_eq_ok_iff.mp huser)
          exact hmem

/-- So does a turn that overlooks nobody. -/
theorem Turn.Proper.allowed (h : ofSettings settings directory = .ok gateway)
    (hlist : settings.auth.useAllowList = true) {turn : Turn} (hturn : turn.Proper)
    (hmarked : gateway.MarkedAllowed settings.auth.allowed turn.before.session)
    (hlooks : ¬ gateway.Overlooks settings.auth.allowed turn) :
    (∀ user, turn.answer gateway = .ok (.loggedIn user) → user.name ∈ settings.auth.allowed) ∧
      gateway.MarkedAllowed settings.auth.allowed (turn.after gateway).session := by
  refine (hturn.performed gateway).allowed h hlist hturn.wellFormed hmarked ?_
  intro remoteUser user haction hnobody hanswer
  by_contra hunlisted
  exact hlooks ⟨remoteUser, user, haction, hnobody, hanswer, hunlisted⟩

end Calls

/-! ## Runs -/

/-- Every login of a run was one of a user on the list, and at its end every session is
logged in as a user on the list or as nobody. -/
structure OnlyAllowed {κ : Type} (gateway : Gateway) (allowed : List String)
    (history : List Turn) (run : Run κ) : Prop where
  answered : ∀ turn ∈ history, ∀ user, turn.answer gateway = .ok (.loggedIn user) →
    user.name ∈ allowed
  resolved : ∀ session user, gateway.sessionUser? (run.sessions session) run.store = some user →
    user.name ∈ allowed

section Runs

variable {settings : Settings} {directory : Option Directory.Client} {gateway : Gateway}
  {κ : Type} [DecidableEq κ]

/-- Visits that overlook nobody keep the sessions marked with names on the list. -/
theorem markedAllowed_visits (h : ofSettings settings directory = .ok gateway)
    (hlist : settings.auth.useAllowList = true) (visits : List (Visit κ)) {run : Run κ}
    (hstore : run.store.WellFormed) (hfresh : Run.FreshIds gateway run visits)
    (hmarked : ∀ session, gateway.MarkedAllowed settings.auth.allowed (run.sessions session))
    (hlooks : ∀ turn ∈ run.history gateway visits,
      ¬ gateway.Overlooks settings.auth.allowed turn) :
    (∀ turn ∈ run.history gateway visits, ∀ user, turn.answer gateway = .ok (.loggedIn user) →
        user.name ∈ settings.auth.allowed) ∧
      ∀ session, gateway.MarkedAllowed settings.auth.allowed
        ((run.visits gateway visits).sessions session) := by
  induction visits generalizing run with
  | nil =>
      refine ⟨?_, hmarked⟩
      intro turn hturn
      cases hturn
  | cons visit visits ih =>
      obtain ⟨hunused, hlater⟩ := hfresh
      obtain ⟨hanswer, hleft⟩ := (Run.proper_turn hstore hunused).allowed h hlist
        (hmarked visit.session) (hlooks _ (List.mem_cons_self ..))
      -- the session of the visit is the only one that changed
      have hthen (session : κ) : gateway.MarkedAllowed settings.auth.allowed
          ((run.visit gateway visit).sessions session) := by
        rw [Run.sessions_visit]
        split
        · exact hleft
        · exact hmarked session
      obtain ⟨hanswers, hend⟩ := ih (Run.wellFormed_visit hstore hunused) hlater hthen
        fun turn hturn => hlooks turn (List.mem_cons_of_mem _ hturn)
      refine ⟨?_, hend⟩
      intro turn hturn
      rcases List.mem_cons.mp hturn with rfl | hrest
      · exact hanswer
      · exact hanswers turn hrest

/-- A run of sessions without markers keeps to the list exactly when no Kerberos login
overlooks it. -/
theorem onlyAllowed_iff (h : ofSettings settings directory = .ok gateway)
    (hlist : settings.auth.useAllowList = true) {store : Store} {sessions : κ → Session}
    (hstore : store.WellFormed) (hsessions : ∀ session kind, (sessions session).marker? kind = none)
    (visits : List (Visit κ)) (hfresh : Run.FreshIds gateway (.start store sessions) visits) :
    let start := Run.start store sessions
    gateway.OnlyAllowed settings.auth.allowed (start.history gateway visits)
        (start.visits gateway visits) ↔
      ∀ turn ∈ start.history gateway visits, ¬ gateway.Overlooks settings.auth.allowed turn := by
  intro start
  constructor
  · rintro honly turn hturn ⟨remoteUser, user, -, -, hanswer, hunlisted⟩
    exact hunlisted (honly.answered turn hturn user hanswer)
  · intro hlooks
    have hmarked (session : κ) :
        gateway.MarkedAllowed settings.auth.allowed (start.sessions session) :=
      markedAllowed_of_unmarked h _ (hsessions session)
    have hbegun : start.store.WellFormed := hstore
    obtain ⟨hanswers, hend⟩ := markedAllowed_visits h hlist visits hbegun hfresh hmarked hlooks
    exact {
      answered := hanswers
      resolved := fun session user huser =>
        (hend session).user (Run.wellFormed_visits visits hstore hfresh) huser }

end Runs

/-! ## Settings that keep to the list -/

/-- Every run over a well-formed store, of sessions without markers, keeps to the list. -/
def KeepsToList (gateway : Gateway) (allowed : List String) : Prop :=
  ∀ (κ : Type) [DecidableEq κ] (store : Store) (sessions : κ → Session) (visits : List (Visit κ)),
    store.WellFormed → (∀ session kind, (sessions session).marker? kind = none) →
      Run.FreshIds gateway (.start store sessions) visits →
        gateway.OnlyAllowed allowed ((Run.start store sessions).history gateway visits)
          ((Run.start store sessions).visits gateway visits)

/-- A username is the name that it presents as a principal. -/
theorem presented?_of_isValid {name : String} (h : Username.isValid name = true) :
    presented? (some name) = some name :=
  presented?_eq_some_iff.mpr
    ⟨name, rfl, Username.ne_empty_of_isValid h, Username.ofPrincipal?_of_isValid h⟩

/-- No list holds every username. -/
theorem exists_unlisted (allowed : List String) :
    ∃ name, Username.isValid name = true ∧ name ∉ allowed := by
  -- a name longer than all names of the list
  obtain ⟨bound, hbound⟩ : ∃ bound, ∀ name ∈ allowed, name.toList.length ≤ bound := by
    induction allowed with
    | nil => exact ⟨0, by simp⟩
    | cons first rest ih =>
        obtain ⟨bound, hbound⟩ := ih
        refine ⟨max first.toList.length bound, ?_⟩
        intro name hname
        rcases List.mem_cons.mp hname with rfl | hrest
        · exact Nat.le_max_left ..
        · exact Nat.le_trans (hbound name hrest) (Nat.le_max_right ..)
  refine ⟨String.ofList (List.replicate (bound + 1) 'a'), ?_, ?_⟩
  · have ha : Username.isChar 'a' = true := by decide +kernel
    simp [Username.isValid, ha]
  · intro hmem
    have hlength := hbound _ hmem
    rw [String.toList_ofList, List.length_replicate] at hlength
    exact Nat.not_succ_le_self bound hlength

/-- A store whose only user has this name. -/
def strangerStore (name : String) : Store :=
  Store.empty.insert ⟨⟨"1"⟩, 0⟩ ⟨name, "", none⟩

/-- The user presents a ticket, and the directory finds nobody. -/
def strangerVisit (name : String) : Visit Unit :=
  ⟨(), .completeKerberos (some name), ⟨⟨"2"⟩, 0⟩, nobodyScript⟩

theorem wellFormed_strangerStore (name : String) : (strangerStore name).WellFormed :=
  Store.wellFormed_insert Store.wellFormed_empty rfl rfl

theorem strangerStore_fresh (name : String) :
    (strangerStore name).users.get? (strangerVisit name).moment.id = none := by
  have hne : (⟨"1"⟩ : UserId) ≠ ⟨"2"⟩ := by decide
  exact Table.get?_put_of_ne _ _ hne

section Settings

variable {settings : Settings} {directory : Option Directory.Client} {gateway : Gateway}

/-- Where a Kerberos login can complete, a user of the store who is not on the list gets
in. -/
theorem overlooks_stranger (h : ofSettings settings directory = .ok gateway)
    (hon : settings.auth.kerberosEnabled = true)
    (hsource : settings.auth.federated = true ∨ directory ≠ none) {allowed : List String}
    {name : String} (hvalid : Username.isValid name = true) (hunlisted : name ∉ allowed) :
    gateway.Overlooks allowed
      ((Run.start (strangerStore name) fun _ => Table.empty).turn (strangerVisit name)) := by
  obtain ⟨-, hgroups, henabled⟩ := ofSettings_parts h
  have hproper : ((Run.start (strangerStore name) fun _ => Table.empty).turn
      (strangerVisit name)).Proper :=
    Run.proper_turn (wellFormed_strangerStore name) (strangerStore_fresh name)
  obtain ⟨outcome, hlogin, hanswer, -⟩ := hproper.kerberosLogin gateway rfl
  have hnobody : gateway.sessionUser? Table.empty (strangerStore name) = none := by
    rw [sessionUser?, sessionName?, marker?_eq_none h fun _ => rfl]
    rfl
  -- the user has no binding and is found by the name
  have hfound : (strangerStore name).userNamed? name =
      some (Store.newRecord ⟨⟨"1"⟩, 0⟩ ⟨name, "", none⟩) := by
    simp [strangerStore, Store.userNamed?, Store.insert]
  have htold : gateway.groups.told name nobodyScript = .ok ⟨none⟩ := by
    rw [hgroups]
    exact GroupAuthority.told_of_nobody _ hsource name
  rcases hlogin.of_found (henabled.trans hon) hnobody (presented?_of_isValid hvalid)
      (.found rfl hfound) with ⟨fault, hfault, -⟩ | ⟨groups, -, rfl, -⟩
  · rw [show gateway.groups.told name nobodyScript = .error fault from hfault] at htold
    cases htold
  · exact ⟨some name, _, rfl, hnobody, hanswer, hunlisted⟩

/-- Where no Kerberos login can complete, none overlooks the list. -/
theorem not_overlooks (h : ofSettings settings directory = .ok gateway)
    (hoff : settings.auth.kerberosEnabled = false ∨
      settings.auth.federated = false ∧ directory = none)
    {allowed : List String} {turn : Turn} (hturn : turn.Proper) :
    ¬ gateway.Overlooks allowed turn := by
  rintro ⟨remoteUser, user, haction, hnobody, hanswer, -⟩
  obtain ⟨-, hgroups, henabled⟩ := ofSettings_parts h
  have hlogin := hturn.kerberosLogin_of_ok haction hanswer
  rcases hoff with hkerberos | ⟨hfederated, hdirectory⟩
  · have hon := hlogin.enabled_of_ok
    rw [henabled, hkerberos] at hon
    cases hon
  -- without a source of groups only the user of a session is answered
  · obtain ⟨hsession, -⟩ :=
      hlogin.already_of_ok (by rw [hgroups, hfederated]) (by rw [hgroups, hdirectory])
    rw [hnobody] at hsession
    cases hsession

/-- The gateway keeps to the list exactly when no Kerberos login can complete. -/
theorem keepsToList_iff (h : ofSettings settings directory = .ok gateway)
    (hlist : settings.auth.useAllowList = true) :
    gateway.KeepsToList settings.auth.allowed ↔
      settings.auth.kerberosEnabled = false ∨
        settings.auth.federated = false ∧ directory = none := by
  constructor
  · intro hkeeps
    by_contra hopen
    rw [not_or, Bool.not_eq_false] at hopen
    obtain ⟨hon, hsource⟩ := hopen
    have htells : settings.auth.federated = true ∨ directory ≠ none := by
      cases hfederated : settings.auth.federated with
      | true => exact Or.inl rfl
      | false => exact Or.inr fun hnone => hsource ⟨hfederated, hnone⟩
    obtain ⟨name, hvalid, hunlisted⟩ := exists_unlisted settings.auth.allowed
    have hruns := hkeeps Unit (strangerStore name) (fun _ => Table.empty) [strangerVisit name]
      (wellFormed_strangerStore name) (fun _ _ => rfl) ⟨strangerStore_fresh name, trivial⟩
    obtain ⟨_, user, -, -, hanswer, hout⟩ := overlooks_stranger h hon htells hvalid hunlisted
    exact hout (hruns.answered _ (List.mem_cons_self ..) user hanswer)
  · intro hoff κ _ store sessions visits hstore hsessions hfresh
    refine (onlyAllowed_iff h hlist hstore hsessions visits hfresh).mpr ?_
    intro turn hturn
    exact not_overlooks h hoff (Run.proper_of_mem_history visits hstore hfresh hturn)

end Settings

/-- With a list of allowed users every federated login that succeeds is one of a user on it.
A run of sessions without markers keeps to the list exactly when no Kerberos login of a
session of nobody lets in a stranger, and all runs do exactly when no Kerberos login can
complete. -/
theorem allowed_visits {settings : Settings} {directory : Option Directory.Client}
    {gateway : Gateway} (h : ofSettings settings directory = .ok gateway)
    (hlist : settings.auth.useAllowList = true) :
    (∀ (κ : Type) [DecidableEq κ] (store : Store) (sessions : κ → Session)
        (visits : List (Visit κ)), store.WellFormed →
      (∀ session kind, (sessions session).marker? kind = none) →
      Run.FreshIds gateway (.start store sessions) visits →
        let start := Run.start store sessions
        let history := start.history gateway visits
        (∀ turn ∈ history, ∀ claims user, turn.action = .completeFederated claims →
          turn.answer gateway = .ok (.loggedIn user) → user.name ∈ settings.auth.allowed) ∧
        (gateway.OnlyAllowed settings.auth.allowed history (start.visits gateway visits) ↔
          ∀ turn ∈ history, ¬ gateway.Overlooks settings.auth.allowed turn)) ∧
      (gateway.KeepsToList settings.auth.allowed ↔
        settings.auth.kerberosEnabled = false ∨
          settings.auth.federated = false ∧ directory = none) := by
  refine ⟨?_, keepsToList_iff h hlist⟩
  intro κ _ store sessions visits hstore hsessions hfresh start history
  refine ⟨?_, onlyAllowed_iff h hlist hstore hsessions visits hfresh⟩
  intro turn hturn claims user haction hanswer
  have hproper := Run.proper_of_mem_history visits hstore hfresh hturn
  have hlogin := hproper.federatedLogin_of_ok haction hanswer
  exact (hlogin.allowed h hlist hproper.wellFormed).1

/-! ### Bob is not on the list -/

/-- Settings with tickets and a list on which Alice stands alone. -/
def aliceOnly : Settings :=
  { ticketOnly with auth := { ticketOnly.auth with useAllowList := true, allowed := ["alice"] } }

/-- The gateway of these settings. -/
def aliceOnlyGateway : Gateway :=
  { ticketOnlyGateway with provisioner := .ofSettings aliceOnly.auth }

theorem ofSettings_aliceOnly :
    ofSettings aliceOnly (Directory.Client.ofSettings? aliceOnly.auth) = .ok aliceOnlyGateway :=
  rfl

/-- A ticket presented over an empty store. -/
def ticketOf (principal : String) : Visit String :=
  ⟨"desk", .completeKerberos (some principal), ⟨⟨"1"⟩, 10⟩, packagers⟩

/-- Alice alone keeps to the list. -/
theorem allowed_aliceTicket :
    let start := Run.start Store.empty fun _ : String => Table.empty
    let visits := [ticketOf "alice@EXAMPLE.COM"]
    ofSettings aliceOnly (Directory.Client.ofSettings? aliceOnly.auth) = .ok aliceOnlyGateway ∧
      aliceOnly.auth.useAllowList = true ∧
      ((start.visits aliceOnlyGateway visits).sessions "desk").marker? .directory = some "alice" ∧
      aliceOnlyGateway.OnlyAllowed ["alice"] (start.history aliceOnlyGateway visits)
        (start.visits aliceOnlyGateway visits) ∧
      ¬ aliceOnlyGateway.KeepsToList ["alice"] := by
  intro start visits
  obtain ⟨hruns, hkeeps⟩ := allowed_visits ofSettings_aliceOnly rfl
  obtain ⟨-, honly⟩ := hruns String Store.empty (fun _ => Table.empty) visits
    Store.wellFormed_empty (fun _ _ => rfl) (by decide +kernel)
  refine ⟨ofSettings_aliceOnly, rfl, by decide +kernel, honly.mpr ?_, ?_⟩
  · intro turn hturn
    obtain rfl := List.mem_singleton.mp hturn
    rintro ⟨remoteUser, user, -, -, hanswer, hunlisted⟩
    have halice : (start.turn (ticketOf "alice@EXAMPLE.COM")).answer aliceOnlyGateway =
        .ok (.loggedIn ⟨⟨"1"⟩, "alice", "alice@example.com", none, false,
          some ⟨some ["packager"]⟩, 10⟩) := rfl
    rw [halice] at hanswer
    obtain rfl := Answer.loggedIn.inj (Except.ok.inj hanswer)
    exact hunlisted (List.mem_singleton_self _)
  · intro hall
    rcases hkeeps.mp hall with hoff | ⟨-, hnone⟩
    · cases hoff
    · cases hnone

/-- Bob's ticket makes him a user and logs him in. -/
theorem unlisted_bobTicket :
    let before : Context Store := (Run.start Store.empty fun _ : String => Table.empty).context
      "desk" packagers
    let ending := aliceOnlyGateway.completeKerberos ⟨⟨"1"⟩, 10⟩ (some "bob@EXAMPLE.COM") before
    let bob : User :=
      ⟨⟨"1"⟩, "bob", "bob@example.com", none, false, some ⟨some ["packager"]⟩, 10⟩
    ofSettings aliceOnly (Directory.Client.ofSettings? aliceOnly.auth) = .ok aliceOnlyGateway ∧
      aliceOnly.auth.useAllowList = true ∧ before.store.WellFormed ∧
      (∀ kind, before.session.marker? kind = none) ∧
      ending.1 = .ok bob ∧ (aliceOnlyGateway.currentUser ending.2).1 = .ok (some bob) ∧
      bob.name ∉ aliceOnly.auth.allowed :=
  ⟨ofSettings_aliceOnly, rfl, Store.wellFormed_empty, fun _ => rfl, rfl, rfl, by decide⟩

end SignOn.Gateway
