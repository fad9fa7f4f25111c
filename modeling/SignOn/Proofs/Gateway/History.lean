import SignOn.Proofs.Gateway.Action

/-!
# The history of a run

A `Turn` is one call with the context in which it was made, and `Run.history` lists the
turns of a run from the first. Statements about a whole run speak about its history.
Every turn of it is `Turn.Proper` (`Run.proper_of_mem_history`), and what a proper turn
does is one of the ways of `Performed` (`Turn.Proper.performed`).
-/

set_option autoImplicit false

namespace SignOn.Gateway

/-! ## Turns -/

/-- One call with the context in which it is made. -/
structure Turn where
  moment : Moment
  action : Action
  before : Context Store

namespace Turn

/-- What comes of the call. -/
def ending (gateway : Gateway) (turn : Turn) : Except Fault Answer × Context Store :=
  gateway.perform turn.moment turn.action turn.before

/-- The answer to the call. -/
def answer (gateway : Gateway) (turn : Turn) : Except Fault Answer :=
  (turn.ending gateway).1

/-- What the call leaves. -/
def after (gateway : Gateway) (turn : Turn) : Context Store :=
  (turn.ending gateway).2

/-- Steps that have been made towards the directory after the call. -/
def asked (gateway : Gateway) (turn : Turn) : List Directory.Step :=
  (turn.after gateway).trace.steps

/-- The call is made over a well-formed store, with an identifier that is unused and
nothing in its trace. -/
structure Proper (turn : Turn) : Prop where
  wellFormed : turn.before.store.WellFormed
  fresh : turn.before.store.users.get? turn.moment.id = none
  silent : turn.before.trace = .empty

/-- A proper turn goes one of the ways of its action. -/
theorem Proper.performed {turn : Turn} (h : turn.Proper) (gateway : Gateway) :
    Performed gateway turn.moment turn.before turn.action (turn.answer gateway)
      (turn.after gateway).store (turn.after gateway).session (turn.asked gateway) := by
  obtain ⟨answer, store, session, steps, answers, events, hperformed, hend⟩ :=
    perform_apply gateway turn.moment turn.action h.wellFormed
  have hanswer : turn.answer gateway = answer := congrArg Prod.fst hend
  have hafter : turn.after gateway =
      (((turn.before.asking steps answers).withStore store).withSession session).logging events :=
    congrArg Prod.snd hend
  -- the trace was empty, so its steps are those of this call
  have hasked : turn.asked gateway = steps := by
    rw [asked, hafter]
    simp [Context.logging, Context.withSession, Context.withStore, Context.asking, h.silent,
      Trace.empty]
  rw [hanswer, hasked, hafter]
  exact hperformed

section Completing

variable {gateway : Gateway} {turn : Turn} {user : User}

/-- A turn that finishes a federated login ends in one of its ways. -/
theorem Proper.federatedLogin (h : turn.Proper) (gateway : Gateway) {claims : Claims}
    (haction : turn.action = .completeFederated claims) :
    ∃ outcome, FederatedLogin gateway turn.moment claims turn.before.store turn.before.session
        outcome (turn.after gateway).store (turn.after gateway).session ∧
      turn.answer gateway = outcome.map .loggedIn ∧ turn.asked gateway = [] := by
  have hperformed := h.performed gateway
  rw [haction] at hperformed
  exact hperformed.of_completeFederated

/-- The way of a federated login that answers with a user is one of success. -/
theorem Proper.federatedLogin_of_ok (h : turn.Proper) {claims : Claims}
    (haction : turn.action = .completeFederated claims)
    (hanswer : turn.answer gateway = .ok (.loggedIn user)) :
    FederatedLogin gateway turn.moment claims turn.before.store turn.before.session (.ok user)
      (turn.after gateway).store (turn.after gateway).session := by
  obtain ⟨outcome, hlogin, hthen, -⟩ := h.federatedLogin gateway haction
  rw [hthen] at hanswer
  exact map_loggedIn_eq_ok_iff.mp hanswer ▸ hlogin

/-- A turn that finishes a Kerberos login ends in one of its ways. -/
theorem Proper.kerberosLogin (h : turn.Proper) (gateway : Gateway) {remoteUser : Option String}
    (haction : turn.action = .completeKerberos remoteUser) :
    ∃ outcome, KerberosLogin gateway turn.moment remoteUser
        (fun name => gateway.groups.told name turn.before.directory) turn.before.store
        turn.before.session outcome (turn.after gateway).store (turn.after gateway).session ∧
      turn.answer gateway = kerberosAnswer outcome ∧
      turn.asked gateway = gateway.kerberosSteps remoteUser turn.before.store
        turn.before.session turn.before.directory := by
  have hperformed := h.performed gateway
  rw [haction] at hperformed
  exact hperformed.of_completeKerberos

/-- The way of a Kerberos login that answers with a user is one of success. -/
theorem Proper.kerberosLogin_of_ok (h : turn.Proper) {remoteUser : Option String}
    (haction : turn.action = .completeKerberos remoteUser)
    (hanswer : turn.answer gateway = .ok (.loggedIn user)) :
    KerberosLogin gateway turn.moment remoteUser
      (fun name => gateway.groups.told name turn.before.directory) turn.before.store
      turn.before.session (.ok user) (turn.after gateway).store
      (turn.after gateway).session := by
  obtain ⟨outcome, hlogin, hthen, -⟩ := h.kerberosLogin gateway haction
  rw [hthen] at hanswer
  exact kerberosAnswer_eq_ok_iff.mp hanswer ▸ hlogin

end Completing

end Turn

/-! ## Histories -/

namespace Run

variable {κ : Type} [DecidableEq κ]

omit [DecidableEq κ] in
/-- The call of a visit, in the context it meets. -/
def turn (run : Run κ) (visit : Visit κ) : Turn :=
  ⟨visit.moment, visit.action, run.context visit.session visit.directory⟩

/-- The turns of visits, the first one first. -/
def history (gateway : Gateway) (run : Run κ) : List (Visit κ) → List Turn
  | [] => []
  | visit :: later => run.turn visit :: history gateway (run.visit gateway visit) later

variable {gateway : Gateway} {run : Run κ}

/-- A visit leaves the store of its turn. -/
theorem store_visit (visit : Visit κ) :
    (run.visit gateway visit).store = ((run.turn visit).after gateway).store := rfl

/-- A visit leaves the session of its turn and no other one changed. -/
theorem sessions_visit (visit : Visit κ) (session : κ) :
    (run.visit gateway visit).sessions session =
      if session = visit.session then ((run.turn visit).after gateway).session
      else run.sessions session := rfl

omit [DecidableEq κ] in
theorem proper_turn {visit : Visit κ} (hstore : run.store.WellFormed)
    (hunused : run.store.users.get? visit.moment.id = none) : (run.turn visit).Proper where
  wellFormed := hstore
  fresh := hunused
  silent := rfl

theorem wellFormed_visit {visit : Visit κ} (hstore : run.store.WellFormed)
    (hunused : run.store.users.get? visit.moment.id = none) :
    (run.visit gateway visit).store.WellFormed :=
  ((proper_turn hstore hunused).performed gateway).wellFormed hstore hunused

/-- Visits leave a well-formed store. -/
theorem wellFormed_visits (visits : List (Visit κ)) {run : Run κ}
    (hstore : run.store.WellFormed) (hfresh : FreshIds gateway run visits) :
    (run.visits gateway visits).store.WellFormed := by
  induction visits generalizing run with
  | nil => exact hstore
  | cons visit visits ih =>
      obtain ⟨hunused, hlater⟩ := hfresh
      exact ih (wellFormed_visit hstore hunused) hlater

/-- The turns of a run are proper. -/
theorem proper_of_mem_history (visits : List (Visit κ)) {run : Run κ}
    (hstore : run.store.WellFormed) (hfresh : FreshIds gateway run visits) {turn : Turn}
    (hturn : turn ∈ run.history gateway visits) : turn.Proper := by
  induction visits generalizing run with
  | nil => cases hturn
  | cons visit visits ih =>
      obtain ⟨hunused, hlater⟩ := hfresh
      rcases List.mem_cons.mp hturn with rfl | hrest
      · exact proper_turn hstore hunused
      · exact ih (wellFormed_visit hstore hunused) hlater hrest

end Run

end SignOn.Gateway
