import SignOn.Proofs.Gateway.Requests

/-!
# One name, one record

A user may be met first at the provider or by a ticket, and is found again by name, by
binding or by identifier. All of these agree, since a principal is bound to the user of its
name (`Store.BoundByName`) and a name once given keeps its record (`Store.Grows`). So in a
run of any calls over an empty store one assignment of names to records serves every login,
whichever way it goes (`names_requests`).
-/

set_option autoImplicit false

namespace SignOn

/-! ## Bindings by name -/

namespace Store

/-- Every principal is bound to the record that its text, read as a name, stands for. -/
def BoundByName (store : Store) : Prop :=
  ∀ principal binding, store.bindings.get? principal = some binding →
    store.names.get? principal = some binding.user

theorem boundByName_empty : empty.BoundByName := by
  intro principal binding h
  cases h

/-- A store that grew without a new binding keeps its bindings by name. -/
theorem BoundByName.grows {before after : Store} (h : before.BoundByName)
    (hgrows : Grows before after) (hsame : after.bindings = before.bindings) :
    after.BoundByName := by
  intro principal binding hbinding
  rw [hsame] at hbinding
  exact hgrows principal binding.user (h principal binding hbinding)

/-- A binding to the record of the name is one by name. -/
theorem BoundByName.addBinding {store : Store} (h : store.BoundByName) {binding : Binding}
    (hname : store.names.get? binding.principal = some binding.user) :
    (store.addBinding binding).BoundByName := by
  intro principal other hother
  rcases Table.eq_or_of_get?_put hother with ⟨rfl, rfl⟩ | ⟨-, hold⟩
  · exact hname
  · exact h principal other hold

/-- The user of a binding has the name of its principal. -/
theorem BoundByName.name_eq {store : Store} (h : store.BoundByName) (hstore : store.WellFormed)
    {principal : String} {binding : Binding}
    (hbinding : store.bindings.get? principal = some binding) :
    ∃ user, store.users.get? binding.user = some user ∧ user.name = principal :=
  hstore.name_iff.mp (h principal binding hbinding)

/-- Different names stand for different records. -/
theorem WellFormed.names_injective {store : Store} (h : store.WellFormed) {first second : String}
    {id : UserId} (hfirst : store.names.get? first = some id)
    (hsecond : store.names.get? second = some id) : first = second := by
  obtain ⟨user, huser, rfl⟩ := h.name_iff.mp hfirst
  obtain ⟨other, hother, rfl⟩ := h.name_iff.mp hsecond
  rw [huser] at hother
  rw [Option.some.inj hother]

end Store

namespace Gateway

open SignOn.Provisioner

/-! ## Logins and their names -/

namespace BoundUser

variable {gateway : Gateway} {moment : Moment} {username : String} {store after : Store}
  {outcome : Except Fault User} {user : User}

/-- Finding the user of a principal binds by name. -/
theorem boundByName (h : BoundUser gateway moment username store outcome after)
    (hstore : store.WellFormed) (hbound : store.BoundByName) : after.BoundByName := by
  cases h with
  | bound | unknown | domainless => exact hbound
  | found _ huser =>
      exact hbound.addBinding (Store.names_get?_of_userNamed? hstore huser)
  | @new _ new _ hunknown _ _ huser =>
      have hfree : store.names.get? new.name = none := by
        rw [huser]
        exact (Store.userNamed?_eq_none_iff hstore).mp hunknown
      have hinserted : (store.insert moment new).BoundByName :=
        hbound.grows (Store.grows_insert hfree) rfl
      refine hinserted.addBinding ?_
      rw [huser]
      exact Table.get?_put_self ..

/-- Where principals are bound by name, the user of a principal has its name. -/
theorem name_eq (h : BoundUser gateway moment username store (.ok user) after)
    (hstore : store.WellFormed) (hbound : store.BoundByName) : user.name = username := by
  cases h with
  | bound hbinding huser =>
      obtain ⟨other, hother, hname⟩ := hbound.name_eq hstore hbinding
      rw [huser] at hother
      rw [Option.some.inj hother]
      exact hname
  | found _ huser => exact ((Store.userNamed?_eq_some_iff hstore).mp huser).2
  | new _ _ _ _ huser =>
      subst huser
      rfl

end BoundUser

/-- A federated login binds nothing. -/
theorem FederatedLogin.bindings_eq {gateway : Gateway} {moment : Moment} {claims : Claims}
    {store after : Store} {session left : Session} {outcome : Except Fault User}
    (h : FederatedLogin gateway moment claims store session outcome after left) :
    after.bindings = store.bindings := by
  cases h with
  | refused | off | mailless | known | new => rfl

namespace KerberosLogin

variable {gateway : Gateway} {moment : Moment} {remoteUser : Option String}
  {told : String → Except Fault GroupSet} {store after : Store} {session left : Session}
  {outcome : Except Fault User} {user : User}

/-- A Kerberos login binds by name. -/
theorem boundByName
    (h : KerberosLogin gateway moment remoteUser told store session outcome after left)
    (hstore : store.WellFormed) (hbound : store.BoundByName) : after.BoundByName := by
  cases h with
  | off | already | nameless | invalid => exact hbound
  | userless _ _ _ hfinds => exact hfinds.boundByName hstore hbound
  | groupless _ _ _ hfinds => exact hfinds.boundByName hstore hbound
  | done _ _ _ hfinds =>
      exact (hfinds.boundByName hstore hbound).grows Store.grows_replace rfl

/-- A login on a session of nobody goes to the user of the name that its principal
presents. -/
theorem name_of_nobody
    (h : KerberosLogin gateway moment remoteUser told store session (.ok user) after left)
    (hstore : store.WellFormed) (hbound : store.BoundByName)
    (hnobody : gateway.sessionUser? session store = none) {username : String}
    (hname : presented? remoteUser = some username) :
    user.name = username ∧ after.names.get? username = some user.id := by
  cases h with
  | already _ huser =>
      rw [hnobody] at huser
      cases huser
  | @done other found groups middle _ _ hother hfinds =>
      obtain rfl := Option.some.inj (hname.symm.trans hother)
      have hfound : found.name = username := hfinds.name_eq hstore hbound
      refine ⟨hfound, ?_⟩
      rw [← hfound]
      exact hfinds.names_get? hstore

end KerberosLogin

/-- Every call of a session binds by name. -/
theorem Performed.boundByName {gateway : Gateway} {moment : Moment} {before : Context Store}
    {action : Action} {answer : Except Fault Answer} {after : Store} {left : Session}
    {steps : List Directory.Step}
    (h : Performed gateway moment before action answer after left steps)
    (hstore : before.store.WellFormed) (hbound : before.store.BoundByName) :
    after.BoundByName := by
  cases h with
  | login | logout | currentUser => exact hbound
  | completeFederated hlogin => exact hbound.grows (hlogin.grows hstore) hlogin.bindings_eq
  | completeKerberos hlogin => exact hlogin.boundByName hstore hbound

/-- The name that a call logs in: the claimed name of a federated login, and the presented
one of a Kerberos login on a session of nobody. -/
def Turn.name? (gateway : Gateway) (turn : Turn) : Option String :=
  match turn.action with
  | .completeFederated claims => some (gateway.claimedName claims)
  | .completeKerberos remoteUser =>
    if gateway.sessionUser? turn.before.session turn.before.store = none then
      presented? remoteUser
    else none
  | .login .. | .logout | .currentUser => none

/-- A login answers with the user of its name, for whose record the name stands from then
on. -/
theorem Turn.Proper.name_of_ok {gateway : Gateway} {turn : Turn} (h : turn.Proper)
    (hbound : turn.before.store.BoundByName) {name : String} {user : User}
    (hname : turn.name? gateway = some name)
    (hanswer : turn.answer gateway = .ok (.loggedIn user)) :
    user.name = name ∧ (turn.after gateway).store.names.get? name = some user.id := by
  rw [Turn.name?] at hname
  cases haction : turn.action with
  | login | logout | currentUser =>
      rw [haction] at hname
      cases hname
  | completeFederated claims =>
      rw [haction] at hname
      obtain rfl := Option.some.inj hname
      have hlogin := h.federatedLogin_of_ok haction hanswer
      obtain ⟨-, -, hid, -⟩ := hlogin.of_ok h.wellFormed
      obtain ⟨-, huser, -⟩ := hlogin.stored_of_ok h.wellFormed
      exact ⟨huser, hid⟩
  | completeKerberos remoteUser =>
      rw [haction] at hname
      have hlogin := h.kerberosLogin_of_ok haction hanswer
      obtain ⟨hnobody, hpresented⟩ : gateway.sessionUser? turn.before.session
          turn.before.store = none ∧ presented? remoteUser = some name := by
        simpa using hname
      exact hlogin.name_of_nobody h.wellFormed hbound hnobody hpresented

/-! ## Runs of requests -/

section Runs

variable {κ : Type} [DecidableEq κ] {gateway : Gateway}

/-- The tables of the store agree, and principals are bound by name. -/
structure Run.Aligned (run : Run κ) : Prop where
  wellFormed : run.store.WellFormed
  boundByName : run.store.BoundByName

omit [DecidableEq κ] in
theorem aligned_start (sessions : κ → Session) : (Run.start Store.empty sessions).Aligned where
  wellFormed := Store.wellFormed_empty
  boundByName := Store.boundByName_empty

/-- A request keeps a run aligned, and every name its record. -/
theorem Run.Aligned.request {run : Run κ} (h : run.Aligned) (gateway : Gateway)
    (request : Request κ)
    (hunused : run.store.users.get? request.moment.id = none) :
    (run.request gateway request).Aligned ∧
      Store.Grows run.store (run.request gateway request).store := by
  cases request with
  | visit visit =>
      have hproper : (run.turn visit).Proper := Run.proper_turn h.wellFormed hunused
      have hperformed := hproper.performed gateway
      exact ⟨⟨hperformed.wellFormed h.wellFormed hunused,
        hperformed.boundByName h.wellFormed h.boundByName⟩, hperformed.grows h.wellFormed⟩
  | question question moment directory reply =>
      have hstore : (run.aside directory reply).store.WellFormed := h.wellFormed
      have hasked : Provisioned moment run.store _
          (gateway.ask moment question (run.aside directory reply)).2.store :=
        gateway.provisions_ask moment question (run.aside directory reply) hstore
      exact ⟨⟨hasked.wellFormed h.wellFormed hunused,
        h.boundByName.grows hasked.grows hasked.bindings_eq⟩, hasked.grows⟩

/-- Requests keep a run aligned, and every name its record. -/
theorem Run.Aligned.requests (requests : List (Request κ)) {run : Run κ} (h : run.Aligned)
    (hfresh : Run.FreshRequests gateway run requests) :
    (run.requests gateway requests).Aligned ∧
      Store.Grows run.store (run.requests gateway requests).store := by
  induction requests generalizing run with
  | nil => exact ⟨h, Store.Grows.refl run.store⟩
  | cons request requests ih =>
      obtain ⟨hunused, hlater⟩ := hfresh
      obtain ⟨hnext, hgrows⟩ := h.request gateway request hunused
      obtain ⟨hend, hthen⟩ := ih hnext hlater
      exact ⟨hend, hgrows.trans hthen⟩

/-- A login in the midst of requests answers with the user of its name, for whose record
the name stands at the end. -/
theorem Run.Aligned.name_of_ok {earlier later : List (Request κ)} {visit : Visit κ}
    {run : Run κ} (h : run.Aligned)
    (hfresh : Run.FreshRequests gateway run (earlier ++ .visit visit :: later)) {name : String}
    {user : User} (hname : ((run.requests gateway earlier).turn visit).name? gateway = some name)
    (hanswer : ((run.requests gateway earlier).turn visit).answer gateway =
      .ok (.loggedIn user)) :
    user.name = name ∧
      (run.requests gateway (earlier ++ .visit visit :: later)).store.names.get? name =
        some user.id := by
  obtain ⟨hbefore, hunused, hafter⟩ := Run.freshRequests_append.mp hfresh
  obtain ⟨hthen, -⟩ := h.requests earlier hbefore
  have hproper : ((run.requests gateway earlier).turn visit).Proper :=
    Run.proper_turn hthen.wellFormed hunused
  obtain ⟨huser, hid⟩ := hproper.name_of_ok hthen.boundByName hname hanswer
  -- from the login on the name keeps its record
  obtain ⟨hnext, -⟩ := hthen.request gateway (.visit visit) hunused
  obtain ⟨-, hgrows⟩ := hnext.requests later hafter
  refine ⟨huser, ?_⟩
  rw [Run.requests_append]
  exact hgrows name user.id hid

/-- In every run over an empty store each principal is bound to the user of its name, and
one injective assignment of names to records holds throughout: whatever a name stands for
at any time, it is assigned, and a login by either mechanism that succeeds, but for one in
a session that is logged in, answers with the user of its name and the record assigned. -/
theorem names_requests (gateway : Gateway) (sessions : κ → Session) (requests : List (Request κ))
    (hfresh : Run.FreshRequests gateway (.start Store.empty sessions) requests) :
    let start := Run.start Store.empty sessions
    (∀ principal binding,
        (start.requests gateway requests).store.bindings.get? principal = some binding →
          binding.principal = principal ∧
            ∃ user, (start.requests gateway requests).store.users.get? binding.user = some user ∧
              user.name = principal) ∧
      ∃ assigned : String → Option UserId,
        (∀ first second id, assigned first = some id → assigned second = some id →
          first = second) ∧
        (∀ earlier later, requests = earlier ++ later → ∀ name id,
          (start.requests gateway earlier).store.names.get? name = some id →
            assigned name = some id) ∧
        ∀ earlier visit later, requests = earlier ++ .visit visit :: later → ∀ name user,
          ((start.requests gateway earlier).turn visit).name? gateway = some name →
            ((start.requests gateway earlier).turn visit).answer gateway = .ok (.loggedIn user) →
              user.name = name ∧ assigned name = some user.id := by
  intro start
  have hstart : start.Aligned := aligned_start sessions
  obtain ⟨hend, -⟩ := hstart.requests requests hfresh
  refine ⟨?_, (start.requests gateway requests).store.names.get?, ?_, ?_, ?_⟩
  · intro principal binding hbinding
    exact ⟨hend.wellFormed.principal_eq hbinding,
      hend.boundByName.name_eq hend.wellFormed hbinding⟩
  · intro first second id hfirst hsecond
    exact hend.wellFormed.names_injective hfirst hsecond
  · rintro earlier later rfl name id hid
    obtain ⟨hbefore, hafter⟩ := Run.freshRequests_append.mp hfresh
    obtain ⟨hthen, -⟩ := hstart.requests earlier hbefore
    obtain ⟨-, hgrows⟩ := hthen.requests later hafter
    rw [Run.requests_append]
    exact hgrows name id hid
  · rintro earlier visit later rfl name user hname hanswer
    exact hstart.name_of_ok hfresh hname hanswer

end Runs

/-! ### Jane's record -/

/-- What the provider tells of Jane. -/
def janeClaims : Claims := ⟨"http://[::1]/jane", some "jane@example.org", none, some ["qa"]⟩

/-- Somebody asks for Jane; she logs in at the provider, and by her ticket elsewhere. -/
def janeRequests : List (Request String) :=
  [.question (.user (some janeClaims) none) ⟨⟨"1"⟩, 10⟩ nobodyScript none,
    .visit ⟨"desk", .completeFederated janeClaims, ⟨⟨"2"⟩, 20⟩, nobodyScript⟩,
    .visit ⟨"phone", .completeKerberos (some "jane@EXAMPLE.ORG"), ⟨⟨"2"⟩, 30⟩, nobodyScript⟩]

/-- Both logins answer with the record that was made for the question. -/
theorem names_janeRequests :
    let start := Run.start Store.empty fun _ : String => Table.empty
    let store := (start.requests bothWaysGateway janeRequests).store
    start.FreshRequests bothWaysGateway janeRequests ∧
      (store.users.get? ⟨"1"⟩).map User.name = some "jane" ∧
      (store.bindings.get? "jane").map Binding.user = some ⟨"1"⟩ ∧
      ∃ assigned : String → Option UserId, assigned "jane" = some ⟨"1"⟩ ∧
        ∃ desk phone : User,
          ((start.requests bothWaysGateway (janeRequests.take 1)).turn
              ⟨"desk", .completeFederated janeClaims, ⟨⟨"2"⟩, 20⟩, nobodyScript⟩).answer
                bothWaysGateway = .ok (.loggedIn desk) ∧
          ((start.requests bothWaysGateway (janeRequests.take 2)).turn
              ⟨"phone", .completeKerberos (some "jane@EXAMPLE.ORG"), ⟨⟨"2"⟩, 30⟩,
                nobodyScript⟩).answer bothWaysGateway = .ok (.loggedIn phone) ∧
          assigned "jane" = some desk.id ∧ assigned "jane" = some phone.id := by
  intro start store
  have hfresh : start.FreshRequests bothWaysGateway janeRequests := by decide +kernel
  obtain ⟨-, assigned, -, hnames, hlogins⟩ := names_requests bothWaysGateway _ janeRequests hfresh
  have hdesk := hlogins (janeRequests.take 1) _ (janeRequests.drop 2) rfl "jane" _ rfl rfl
  have hphone := hlogins (janeRequests.take 2) _ [] rfl "jane" _ rfl rfl
  exact ⟨hfresh, by decide +kernel, by decide +kernel, assigned, hdesk.2, _, _, rfl, rfl, hdesk.2,
    hphone.2⟩

end Gateway

end SignOn
