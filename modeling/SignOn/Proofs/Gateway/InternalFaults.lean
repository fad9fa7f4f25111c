import SignOn.Proofs.Gateway.KerberosRetry
import SignOn.Proofs.Gateway.Requests

/-!
# Faults that no request can cause

Over a well-formed store no call of a gateway meets a fault of the service itself: each
look-up and each write of a login meets the tables in agreement, so that every way it can go
is `Blameless` (`blameless_perform`), and so is every way a question can end
(`provisions_ask`). Calls keep the tables in agreement, so that no run of requests ever meets
an internal fault (`fault?_requests`).
-/

set_option autoImplicit false

namespace SignOn.Gateway

open SignOn.Provisioner

variable {gateway : Gateway} {moment : Moment}

/-! ## Calls -/

/-- The words of a Kerberos login keep a fault what it is. -/
@[simp]
theorem isInternal_kerberosFault (fault : Fault) :
    (kerberosFault fault).isInternal = fault.isInternal := by
  cases fault <;> rfl

theorem FederatedLogin.blameless {claims : Claims} {store after : Store} {session left : Session}
    {outcome : Except Fault User}
    (h : FederatedLogin gateway moment claims store session outcome after left) :
    Blameless outcome := by
  cases h with
  | refused => simp [notAllowed, Fault.isInternal]
  | off => simp [Fault.isInternal]
  | mailless => simp [noMail, Fault.isInternal]
  | known | new => exact blameless_ok _

theorem BoundUser.blameless {username : String} {store after : Store}
    {outcome : Except Fault User} (h : BoundUser gateway moment username store outcome after) :
    Blameless outcome := by
  cases h with
  | bound | found | new => exact blameless_ok _
  | unknown => simp [Fault.isInternal]
  | domainless => simp [noDomain, Fault.isInternal]

theorem KerberosLogin.blameless {remoteUser : Option String}
    {told : String → Except Fault GroupSet} {store after : Store} {session left : Session}
    {outcome : Except Fault User}
    (h : KerberosLogin gateway moment remoteUser told store session outcome after left)
    (htold : ∀ username, Blameless (told username)) : Blameless outcome := by
  cases h with
  | off => simp [Fault.isInternal]
  | already => exact blameless_ok _
  | nameless => simp [noCredentials, Fault.isInternal]
  | invalid => simp [invalidPrincipal, Fault.isInternal]
  | @userless _ fault _ _ _ _ hbound =>
      exact (blameless_error_iff fault).mpr (hbound.blameless fault rfl)
  | @groupless username _ fault _ _ _ _ _ hfault =>
      exact (blameless_error_iff fault).mpr (htold username fault hfault)
  | done => exact blameless_ok _

theorem blameless_kerberosAnswer {outcome : Except Fault User} (h : Blameless outcome) :
    Blameless (kerberosAnswer outcome) := by
  cases outcome with
  | error fault => simpa using h
  | ok user => simp

/-- Whatever way an action goes, it meets no internal fault. -/
theorem Performed.blameless {before : Context Store} {action : Action}
    {answer : Except Fault Answer} {after : Store} {left : Session} {steps : List Directory.Step}
    (h : Performed gateway moment before action answer after left steps) : Blameless answer := by
  cases h with
  | login _ _ _ houtcome => exact blameless_map_iff.mpr houtcome
  | logout | currentUser => exact blameless_ok _
  | completeFederated hlogin => exact blameless_map_iff.mpr hlogin.blameless
  | completeKerberos hlogin =>
      apply blameless_kerberosAnswer
      exact hlogin.blameless fun name => gateway.groups.blameless_told name before.directory

/-- No call of a session meets an internal fault. -/
theorem blameless_perform (gateway : Gateway) (moment : Moment) (action : Action)
    {context : Context Store} (h : context.store.WellFormed) :
    Blameless (gateway.perform moment action context).1 := by
  obtain ⟨answer, after, left, steps, answers, events, hperformed, hend⟩ :=
    perform_apply gateway moment action h
  rw [hend]
  exact hperformed.blameless

/-! ## Runs of requests -/

namespace Run

variable {κ : Type} [DecidableEq κ]

omit [DecidableEq κ] in
/-- The fault with which a request ends, if it ends with one. -/
def fault? (gateway : Gateway) (run : Run κ) : Request κ → Option Fault
  | .visit visit =>
    match (run.turn visit).answer gateway with
    | .ok _ => none
    | .error fault => some fault
  | .question question moment directory reply =>
    match (gateway.ask moment question (run.aside directory reply)).1 with
    | .ok _ => none
    | .error fault => some fault

omit [DecidableEq κ] in
/-- No request over a well-formed store ends with an internal fault. -/
theorem fault?_request {run : Run κ} (h : run.store.WellFormed) {request : Request κ}
    {fault : Fault} (hfault : run.fault? gateway request = some fault) :
    fault.isInternal = false := by
  cases request with
  | visit visit =>
      rw [fault?] at hfault
      split at hfault
      · cases hfault
      · next other hanswer =>
          obtain rfl := Option.some.inj hfault
          have hstore : (run.turn visit).before.store.WellFormed := h
          exact gateway.blameless_perform visit.moment visit.action hstore other hanswer
  | question question moment directory reply =>
      rw [fault?] at hfault
      split at hfault
      · cases hfault
      · next other hanswer =>
          obtain rfl := Option.some.inj hfault
          have hasked := gateway.provisions_ask moment question (run.aside directory reply) h
          rw [hanswer] at hasked
          exact hasked.isInternal_eq_false

/-- A request leaves a well-formed store. -/
theorem wellFormed_request {run : Run κ} (h : run.store.WellFormed) (request : Request κ)
    (hunused : run.store.users.get? request.moment.id = none) :
    (run.request gateway request).store.WellFormed := by
  cases request with
  | visit visit => exact wellFormed_visit h hunused
  | question question moment directory reply =>
      exact (gateway.provisions_ask moment question _ h).wellFormed h hunused

/-- Requests leave a well-formed store. -/
theorem wellFormed_requests (requests : List (Request κ)) {run : Run κ}
    (h : run.store.WellFormed) (hfresh : FreshRequests gateway run requests) :
    (run.requests gateway requests).store.WellFormed := by
  induction requests generalizing run with
  | nil => exact h
  | cons request requests ih =>
      obtain ⟨hunused, hlater⟩ := hfresh
      exact ih (wellFormed_request h request hunused) hlater

end Run

/-- In every run of requests over a well-formed store, whatever its sessions hold, no
request ends with an internal fault, and whenever one is made every binding leads to a
user. -/
theorem fault?_requests (gateway : Gateway) {κ : Type} [DecidableEq κ] {store : Store}
    (hstore : store.WellFormed) (sessions : κ → Session) (requests : List (Request κ))
    (hfresh : Run.FreshRequests gateway (.start store sessions) requests) :
    ∀ earlier request later, requests = earlier ++ request :: later →
      let met := (Run.start store sessions).requests gateway earlier
      (∀ fault, met.fault? gateway request = some fault → fault.isInternal = false) ∧
        ∀ principal binding, met.store.bindings.get? principal = some binding →
          ∃ user, met.store.users.get? binding.user = some user := by
  rintro earlier request later rfl met
  obtain ⟨hbefore, -⟩ := Run.freshRequests_append.mp hfresh
  have hmet : met.store.WellFormed := Run.wellFormed_requests earlier hstore hbefore
  refine ⟨?_, ?_⟩
  · intro fault hfault
    exact Run.fault?_request hmet hfault
  · intro principal binding hbinding
    exact hmet.bound hbinding

/-! ### Carol's tickets while the directory is down -/

/-- Carol's ticket in a session that is marked with a name nobody has. -/
def carolVisit (id : String) (time : Int) : Request String :=
  .visit ⟨"desk", .completeKerberos (some "carol@EXAMPLE.COM"), ⟨⟨id⟩, time⟩,
    { packagers with opening := [.refused "server down"] }⟩

/-- Her first ticket makes her a user, and the second finds the user she is bound to; both
fail through the directory alone. -/
theorem fault?_carolVisit :
    let start := Run.start janeStore fun _ : String =>
      Table.empty.put MechanismKind.directory.sessionKey "ghost"
    let requests := [carolVisit "2" 20, carolVisit "3" 30]
    let met := start.requests ticketOnlyGateway [carolVisit "2" 20]
    janeStore.WellFormed ∧ start.FreshRequests ticketOnlyGateway requests ∧
      met.fault? ticketOnlyGateway (carolVisit "3" 30) = some (.directoryRefused "server down") ∧
      (Fault.directoryRefused "server down").isInternal = false ∧
      met.store.bindings.get? "carol" = some ⟨"carol", ⟨"2"⟩⟩ ∧
      ∃ user, met.store.users.get? ⟨"2"⟩ = some user := by
  intro start requests met
  have hfresh : start.FreshRequests ticketOnlyGateway requests := by decide +kernel
  have hfault : met.fault? ticketOnlyGateway (carolVisit "3" 30) =
      some (.directoryRefused "server down") := rfl
  have hbinding : met.store.bindings.get? "carol" = some ⟨"carol", ⟨"2"⟩⟩ := by decide +kernel
  obtain ⟨hfaults, hbindings⟩ := fault?_requests ticketOnlyGateway wellFormed_janeStore _ requests
    hfresh [carolVisit "2" 20] (carolVisit "3" 30) [] rfl
  exact ⟨wellFormed_janeStore, hfresh, hfault, hfaults _ hfault, hbinding, hbindings _ _ hbinding⟩

end SignOn.Gateway
