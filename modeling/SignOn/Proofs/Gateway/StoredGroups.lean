import SignOn.Proofs.Directory.GroupNames
import SignOn.Proofs.Gateway.KerberosRetry
import SignOn.Proofs.Gateway.LatestLogin
import SignOn.Proofs.Provider.SignedFields

/-!
# Names of the groups in the store

A login stores the names of its groups on its user, and what is stored decides by exact
comparison where the user may build. Names from a list of teams are in normal form. Names
from the directory are items, but one that stands for a blank `cn` is empty
(`GroupName.forall_isNormal_ofDns_iff`): `TakesBlank` is a Kerberos login that stores such
a name, and a run keeps to the normal form exactly when it has none (`normal_groups`).

What a turn does to the names in the store is said once, for every property of names
(`Turn.Proper.keepsGroups_iff`).
-/

set_option autoImplicit false

namespace SignOn

open SignOn.Directory SignOn.GroupName SignOn.Text

/-- All names of groups that are stored on users have the property. -/
def Store.KeepsGroups (P : String → Prop) (store : Store) : Prop :=
  ∀ id user, store.users.get? id = some user → ∀ names, user.groupNames = some names →
    ∀ name ∈ names, P name

/-- What is stored in normal form is stored as items. -/
theorem Store.KeepsGroups.imp {P Q : String → Prop} {store : Store} (h : store.KeepsGroups P)
    (himp : ∀ name, P name → Q name) : store.KeepsGroups Q :=
  fun id user huser names hnames name hname => himp name (h id user huser names hnames name hname)

namespace Gateway

/-! ## Names that a turn stores -/

/-- The turn saves a login with groups of these names. -/
def Turn.SavesNames (gateway : Gateway) (turn : Turn) (names : List String) : Prop :=
  ∃ login, turn.saved? gateway = some login ∧ login.groups = ⟨some names⟩

/-- A Kerberos login by a session of nobody succeeds with the groups in an entry of the
directory. -/
structure Turn.TakesEntry (gateway : Gateway) (turn : Turn) (entry : Entry) : Prop where
  nobody : gateway.sessionUser? turn.before.session turn.before.store = none
  succeeds : ∃ user, turn.answer gateway = .ok (.loggedIn user)
  finds : ∃ remoteUser username client, turn.action = .completeKerberos remoteUser ∧
    presented? remoteUser = some username ∧ gateway.groups = ⟨false, some client⟩ ∧
    client.Finds username turn.before.directory entry

/-- A Kerberos login stores the groups of an entry, one of which has a blank `cn`. -/
def Turn.TakesBlank (gateway : Gateway) (turn : Turn) : Prop :=
  ∃ entry, turn.TakesEntry gateway entry ∧ ∃ dn ∈ Client.groupDns entry, HasBlankName dn

/-- The claims of a federated login are read from an assertion. -/
def Turn.ReadsClaims (turn : Turn) : Prop :=
  ∀ claims, turn.action = .completeFederated claims →
    ∃ params, Assertion.parse params = .ok claims

section Turns

variable {gateway : Gateway} {turn : Turn} {P : String → Prop}

theorem toOption_eq_some_iff {α : Type} {outcome : Except Fault α} {value : α} :
    outcome.toOption = some value ↔ outcome = .ok value := by
  cases outcome with
  | error fault => simp [Except.toOption]
  | ok other => simp [Except.toOption]

/-- A record that a turn makes has no groups yet. -/
theorem Turn.groupNames_of_made? {user : User} (h : turn.made? gateway = some user) :
    user.groupNames = none := by
  rw [Turn.made?, Gateway.made?] at h
  split at h
  · obtain ⟨new, -, rfl⟩ := Option.map_eq_some_iff.mp h
    rfl
  · cases h

/-- After logins the names are those of the latest one. -/
theorem groupNames_afterLogins (logins : List SavedLogin) (origin : User) :
    (afterLogins logins origin).groupNames =
      (logins.getLast?.map fun login => login.groups.names).getD origin.groupNames := by
  rw [User.groupNames, afterLogins]
  cases logins.getLast? with
  | none => rfl
  | some login => rfl

/-- A turn over names with the property leaves such names exactly when it stores no others. -/
theorem Turn.Proper.keepsGroups_iff (h : turn.Proper)
    (hbefore : turn.before.store.KeepsGroups P) :
    (turn.after gateway).store.KeepsGroups P ↔
      ∀ names, turn.SavesNames gateway names → ∀ name ∈ names, P name := by
  constructor
  · rintro hafter names ⟨login, hsaved, hgroups⟩
    obtain ⟨hrecord, hnone⟩ := h.users_get? gateway login.user
    have hlogins : (turn.saved? gateway).toList.filter (·.user = login.user) = [login] := by
      simp [hsaved]
    rw [hlogins] at hrecord hnone
    -- the user of the login has a record, which is left with the groups of the login
    cases hbegun : (turn.before.store.users.get? login.user).or
        ((turn.made? gateway).toList.find? (·.id = login.user)) with
    | none => cases hnone hbegun
    | some user =>
        rw [hbegun, Option.map_some] at hrecord
        refine hafter _ _ hrecord names ?_
        rw [groupNames_afterLogins]
        exact congrArg GroupSet.names hgroups
  · intro hsaves id user huser names hnames
    obtain ⟨hrecord, -⟩ := h.users_get? gateway id
    rw [huser] at hrecord
    obtain ⟨origin, horigin, rfl⟩ := Option.map_eq_some_iff.mp hrecord.symm
    rw [groupNames_afterLogins] at hnames
    cases hlast : ((turn.saved? gateway).toList.filter (·.user = id)).getLast? with
    -- the record is as it was, or new and without groups
    | none =>
        rw [hlast] at hnames
        rcases Option.or_eq_some_iff.mp horigin with hold | ⟨-, hnew⟩
        · exact hbefore id origin hold names hnames
        · have hmade : turn.made? gateway = some origin :=
            Option.mem_toList.mp (List.mem_of_find?_eq_some hnew)
          have hunknown := Turn.groupNames_of_made? hmade
          rw [hunknown] at hnames
          cases hnames
    -- the record has the groups of the login that the turn saves
    | some login =>
        rw [hlast] at hnames
        have hmem := (List.mem_filter.mp (List.mem_of_getLast? hlast)).1
        exact hsaves names ⟨login, Option.mem_toList.mp hmem, congrArg GroupSet.mk hnames⟩

/-- Names are stored by a federated login with these teams, and by a Kerberos login with an
entry of these groups. -/
theorem Turn.savesNames_iff {names : List String} :
    turn.SavesNames gateway names ↔
      (∃ claims user, turn.action = .completeFederated claims ∧
        turn.answer gateway = .ok (.loggedIn user) ∧ claims.teams = some names) ∨
      ∃ entry, turn.TakesEntry gateway entry ∧ ofDns (Client.groupDns entry) = names := by
  constructor
  · rintro ⟨login, hsaved, hgroups⟩
    unfold Turn.saved? Gateway.saved? at hsaved
    split at hsaved
    -- a federated login always saves
    · next claims user haction hanswer =>
        obtain rfl := Option.some.inj hsaved
        exact Or.inl ⟨claims, user, haction, hanswer, congrArg GroupSet.names hgroups⟩
    -- a Kerberos login saves in a session of nobody
    · next remoteUser user haction hanswer =>
        split at hsaved
        · next hnobody =>
            obtain ⟨groups, hfound, rfl⟩ := Option.map_eq_some_iff.mp hsaved
            obtain ⟨username, hname, hanswered⟩ := Option.bind_eq_some_iff.mp hfound
            have htold : gateway.groups.told username turn.before.directory = .ok ⟨some names⟩ :=
              (toOption_eq_some_iff.mp hanswered).trans (congrArg Except.ok hgroups)
            obtain ⟨client, entry, hsource, hfinds, hnames⟩ :=
              GroupAuthority.told_eq_some_iff.mp htold
            have htakes : turn.TakesEntry gateway entry :=
              { nobody := hnobody
                succeeds := ⟨user, hanswer⟩
                finds := ⟨remoteUser, username, client, haction, hname, hsource, hfinds⟩ }
            exact Or.inr ⟨entry, htakes, hnames⟩
        · cases hsaved
    · cases hsaved
  · rintro (⟨claims, user, haction, hanswer, hteams⟩ | ⟨entry, htakes, rfl⟩)
    · refine ⟨⟨user.id, turn.moment.time, some claims, ⟨claims.teams⟩⟩, ?_,
        congrArg GroupSet.mk hteams⟩
      rw [Turn.saved?, haction, hanswer]
      rfl
    · obtain ⟨user, hanswer⟩ := htakes.succeeds
      obtain ⟨remoteUser, username, client, haction, hname, hgroups, hfinds⟩ := htakes.finds
      have htold := GroupAuthority.told_eq_some_iff.mpr ⟨client, entry, hgroups, hfinds, rfl⟩
      refine ⟨⟨user.id, turn.moment.time, none, ⟨some (ofDns (Client.groupDns entry))⟩⟩, ?_, rfl⟩
      rw [Turn.saved?, haction, hanswer]
      simp [Gateway.saved?, htakes.nobody, hname, htold, toOption_eq_some_iff.mpr]

/-- Teams that an assertion claims have names in normal form. -/
theorem isNormal_of_parse {params : Assertion.Params} {claims : Claims} {names : List String}
    (hclaims : Assertion.parse params = .ok claims) (hteams : claims.teams = some names)
    {name : String} (hname : name ∈ names) : IsNormal name := by
  obtain ⟨-, identity, -, rfl⟩ := Assertion.parse_eq_ok_iff.mp hclaims
  obtain ⟨list, -, rfl⟩ := Option.map_eq_some_iff.mp hteams
  exact Assertion.isNormal_of_mem_teamNames hname

/-- A turn stores items, whoever tells the groups. -/
theorem Turn.SavesNames.isItem {names : List String} (h : turn.SavesNames gateway names)
    (hread : turn.ReadsClaims) {name : String} (hname : name ∈ names) : IsItem name := by
  rcases Turn.savesNames_iff.mp h with ⟨claims, _, haction, -, hteams⟩ | ⟨entry, -, rfl⟩
  · obtain ⟨params, hclaims⟩ := hread claims haction
    exact (isNormal_of_parse hclaims hteams hname).toIsItem
  · exact isItem_of_mem_ofDns hname

/-- A turn stores names in normal form unless it takes a blank one. -/
theorem Turn.forall_isNormal_iff (hread : turn.ReadsClaims) :
    (∀ names, turn.SavesNames gateway names → ∀ name ∈ names, IsNormal name) ↔
      ¬ turn.TakesBlank gateway := by
  constructor
  · rintro hnormal ⟨entry, htakes, dn, hdn, hblank⟩
    have hnames := hnormal _ (Turn.savesNames_iff.mpr (Or.inr ⟨entry, htakes, rfl⟩))
    exact forall_isNormal_ofDns_iff.mp hnames dn hdn hblank
  · intro hnone names hsaves
    rcases Turn.savesNames_iff.mp hsaves with ⟨claims, _, haction, -, hteams⟩ | ⟨entry, htakes, rfl⟩
    · obtain ⟨params, hclaims⟩ := hread claims haction
      exact fun name hname => isNormal_of_parse hclaims hteams hname
    · refine forall_isNormal_ofDns_iff.mpr ?_
      intro dn hdn hblank
      exact hnone ⟨entry, htakes, dn, hdn, hblank⟩

end Turns

/-! ## Runs -/

/-- A run over names with the property leaves such names after each turn exactly when no turn
stores others. -/
theorem Run.keepsGroups_visits_iff {gateway : Gateway} {P : String → Prop} {κ : Type}
    [DecidableEq κ] (visits : List (Visit κ)) {run : Run κ} (hstore : run.store.WellFormed)
    (hfresh : FreshIds gateway run visits) (hgroups : run.store.KeepsGroups P) :
    (∀ turn ∈ run.history gateway visits, (turn.after gateway).store.KeepsGroups P) ↔
      ∀ turn ∈ run.history gateway visits, ∀ names, turn.SavesNames gateway names →
        ∀ name ∈ names, P name := by
  -- over the visits from the first, with the store after it in the place of the first one
  induction visits generalizing run with
  | nil => exact iff_of_true (fun _ hturn => nomatch hturn) (fun _ hturn => nomatch hturn)
  | cons visit visits ih =>
      obtain ⟨hunused, hlater⟩ := hfresh
      have hfirst : ((run.turn visit).after gateway).store.KeepsGroups P ↔ _ :=
        (proper_turn hstore hunused).keepsGroups_iff hgroups
      have hrest (hafter : (run.visit gateway visit).store.KeepsGroups P) :=
        ih (wellFormed_visit hstore hunused) hlater hafter
      rw [Run.history, List.forall_mem_cons, List.forall_mem_cons]
      constructor
      · rintro ⟨hafter, hall⟩
        exact ⟨hfirst.mp hafter, (hrest hafter).mp hall⟩
      · rintro ⟨hsaves, hall⟩
        have hafter := hfirst.mpr hsaves
        exact ⟨hafter, (hrest hafter).mpr hall⟩

/-- Names of teams that are read from an assertion are in normal form. Names of groups that
the directory tells are items, and in normal form exactly when no name in the entry has a
blank `cn`. So are the names that are stored in a run, which are in normal form exactly when
no Kerberos login takes a blank one. -/
theorem normal_groups (params : Assertion.Params) (authority : GroupAuthority)
    (username : String) (context : Context Store) (gateway : Gateway) {κ : Type} [DecidableEq κ]
    (store : Store) (sessions : κ → Session) (visits : List (Visit κ)) :
    (∀ claims names, Assertion.parse params = .ok claims → claims.teams = some names →
        ∀ name ∈ names, IsNormal name) ∧
      (∀ names, (authority.names none (some username) context).1 = .ok (some names) →
        (∀ name ∈ names, IsItem name) ∧
          ∃ client entry, authority = ⟨false, some client⟩ ∧
            client.Finds username context.directory entry ∧
            ((∀ name ∈ names, IsNormal name) ↔
              ∀ dn ∈ Client.groupDns entry, ¬ HasBlankName dn)) ∧
      (store.WellFormed → store.KeepsGroups IsNormal →
        Run.FreshIds gateway (.start store sessions) visits →
        let history := (Run.start store sessions).history gateway visits
        (∀ turn ∈ history, turn.ReadsClaims) →
          (∀ turn ∈ history, (turn.after gateway).store.KeepsGroups IsItem) ∧
            ((∀ turn ∈ history, (turn.after gateway).store.KeepsGroups IsNormal) ↔
              ∀ turn ∈ history, ¬ turn.TakesBlank gateway)) := by
  refine ⟨?_, ?_, ?_⟩
  · intro claims names hclaims hteams name hname
    exact isNormal_of_parse hclaims hteams hname
  · intro names hanswer
    have htold : authority.told username context.directory = .ok ⟨some names⟩ := by
      rw [GroupAuthority.told_eq_map_names, hanswer]
      rfl
    obtain ⟨client, entry, hauthority, hfinds, rfl⟩ := GroupAuthority.told_eq_some_iff.mp htold
    exact ⟨fun name hname => isItem_of_mem_ofDns hname, client, entry, hauthority, hfinds,
      forall_isNormal_ofDns_iff⟩
  · intro hstore hgroups hfresh history hread
    refine ⟨?_, ?_⟩
    · have hitems : store.KeepsGroups IsItem := hgroups.imp fun _ hnormal => hnormal.toIsItem
      refine (Run.keepsGroups_visits_iff visits hstore hfresh hitems).mpr ?_
      intro turn hturn names hsaves name hname
      exact hsaves.isItem (hread turn hturn) hname
    · refine (Run.keepsGroups_visits_iff visits hstore hfresh hgroups).trans ?_
      exact forall₂_congr fun turn hturn => Turn.forall_isNormal_iff (hread turn hturn)

/-! ### Names of Jane's teams and of Carol's groups -/

/-- An assertion about Jane whose list of teams has blank items. -/
def teamParams : Assertion.Params :=
  ⟨[("openid.mode", "id_res"), ("openid.claimed_id", "http://[::1]/jane"),
    ("openid.lp.is_member", "qa, ,release team ,")], by decide⟩

/-- What it claims. -/
def teamClaims : Claims :=
  ⟨"http://[::1]/jane", none, none, some ["qa", "release team"]⟩

/-- Jane logs in with it. -/
def teamVisit : Visit String :=
  ⟨"desk", .completeFederated teamClaims, ⟨⟨"2"⟩, 20⟩, nobodyScript⟩

/-- The names of her teams are stored in normal form. -/
theorem groups_teamVisit :
    let start := Run.start janeStore fun _ : String => Table.empty
    janeStore.WellFormed ∧ janeStore.KeepsGroups IsNormal ∧
      start.FreshIds bothWaysGateway [teamVisit] ∧ Assertion.parse teamParams = .ok teamClaims ∧
      (start.visits bothWaysGateway [teamVisit]).store.users.get? ⟨"1"⟩ =
        some ⟨⟨"1"⟩, "jane", "jane@example.org", none, false,
          some ⟨some ["qa", "release team"]⟩, 20⟩ ∧
      (start.visits bothWaysGateway [teamVisit]).store.KeepsGroups IsNormal := by
  intro start
  have hgroups : janeStore.KeepsGroups IsNormal := by
    intro id user huser names hnames
    obtain ⟨-, rfl⟩ := Prod.mk.inj (List.mem_singleton.mp ((Table.get?_eq_some_iff ..).mp huser))
    cases hnames
  have hfresh : start.FreshIds bothWaysGateway [teamVisit] := by decide +kernel
  have hparse : Assertion.parse teamParams = .ok teamClaims := by decide +kernel
  have hread : ∀ turn ∈ start.history bothWaysGateway [teamVisit], turn.ReadsClaims := by
    intro turn hturn claims haction
    obtain rfl := List.mem_singleton.mp hturn
    obtain rfl := Action.completeFederated.inj haction
    exact ⟨teamParams, hparse⟩
  obtain ⟨-, -, hruns⟩ := normal_groups teamParams bothWaysGateway.groups "jane"
    (start.context "desk" nobodyScript) bothWaysGateway janeStore (fun _ => Table.empty) [teamVisit]
  obtain ⟨-, hnormal⟩ := hruns wellFormed_janeStore hgroups hfresh hread
  refine ⟨wellFormed_janeStore, hgroups, hfresh, hparse, by decide +kernel, ?_⟩
  refine hnormal.mpr ?_ _ (List.mem_singleton_self _)
  -- her groups come from her claims
  rintro turn - ⟨entry, htakes, -⟩
  obtain ⟨_, _, client, -, -, hsource, -⟩ := htakes.finds
  cases hsource

/-- Carol's ticket stores an empty name when the directory names her group by a blank `cn`. -/
theorem groups_blankTicket :
    let blank : Directory.Script := ⟨[], fun _ => .ok [⟨"uid=carol,ou=users,dc=example,dc=com",
      [(memberOf, ["cn=,ou=groups,dc=example,dc=com"])]⟩]⟩
    let before : Context Store :=
      (Run.start Store.empty fun _ : String => Table.empty).context "desk" blank
    let ending := ticketOnlyGateway.completeKerberos ⟨⟨"1"⟩, 10⟩ (some "carol@EXAMPLE.COM") before
    let carol : User :=
      ⟨⟨"1"⟩, "carol", "carol@example.com", none, false, some ⟨some [""]⟩, 10⟩
    ofSettings ticketOnly (Directory.Client.ofSettings? ticketOnly.auth) = .ok ticketOnlyGateway ∧
      (ticketOnlyGateway.groups.names none (some "carol") before).1 = .ok (some [""]) ∧
      ending.1 = .ok carol ∧ ending.2.store.users.get? ⟨"1"⟩ = some carol ∧
      carol.canBuildIn "" = true ∧ ¬ IsNormal "" :=
  ⟨ofSettings_ticketOnly, rfl, rfl, rfl, by decide, fun hnormal => hnormal.nonempty rfl⟩

end Gateway

end SignOn
