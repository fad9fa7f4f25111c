import SignOn.Proofs.Fault
import SignOn.Proofs.Gateway.KerberosLogin
import SignOn.Proofs.Gateway.Run

/-!
# What a call of a session does

`Performed` lists the ways in which an action of a session can go, each with its
answer, the store and the session it leaves and the steps it makes towards the
directory. `perform_apply` says that a gateway over a well-formed store takes one of
them, so that whatever holds of every call is shown by cases on `Performed`.
-/

set_option autoImplicit false

namespace SignOn.Gateway

/-! ## Calls that change no record -/

/-- Asking where to log in only logs, and fails only for want of a mechanism. -/
theorem login_apply (gateway : Gateway) (kind : MechanismKind) (next : String)
    (context : Context Store) : ∃ outcome events, Blameless outcome ∧
      gateway.login kind next context = (outcome, context.logging events) := by
  obtain ⟨events, hcurrent⟩ := gateway.currentUser_apply context
  cases huser : gateway.sessionUser? context.session context.store with
  | some user =>
      refine ⟨.ok next, events, blameless_ok next, ?_⟩
      rw [huser] at hcurrent
      rw [login, Call.bind_of_ok hcurrent]
      rfl
  | none =>
      rw [huser] at hcurrent
      cases hmechanism : gateway.mechanism? kind with
      | some mechanism =>
          refine ⟨.ok (mechanism.loginUrl next), events, blameless_ok _, ?_⟩
          simp [login, Call.bind_of_ok hcurrent, hmechanism]
      | none =>
          refine ⟨.error .noMechanism, events, (blameless_error_iff _).mpr rfl, ?_⟩
          simp [login, Call.bind_of_ok hcurrent, hmechanism]

/-! ## Ways an action goes -/

/-- The answer to a Kerberos login that ends with `outcome`. -/
def kerberosAnswer (outcome : Except Fault User) : Except Fault Answer :=
  (outcome.mapError kerberosFault).map .loggedIn

@[simp] theorem kerberosAnswer_error (fault : Fault) :
    kerberosAnswer (.error fault) = .error (kerberosFault fault) := rfl

@[simp] theorem kerberosAnswer_ok (user : User) :
    kerberosAnswer (.ok user) = .ok (.loggedIn user) := rfl

/-- Ways an action goes, with its answer, the store and the session it leaves and the
steps it makes towards the directory. -/
inductive Performed (gateway : Gateway) (moment : Moment) (before : Context Store) :
    Action → Except Fault Answer → Store → Session → List Directory.Step → Prop
  | login (kind : MechanismKind) (next : String) (outcome : Except Fault String)
      (hblameless : Blameless outcome) :
      Performed gateway moment before (.login kind next) (outcome.map .sentTo) before.store
        before.session []
  | logout :
      Performed gateway moment before .logout (.ok .loggedOut) before.store
        before.session.clearAll []
  | currentUser :
      Performed gateway moment before .currentUser
        (.ok (.current (gateway.sessionUser? before.session before.store))) before.store
        before.session []
  | completeFederated {claims : Claims} {outcome : Except Fault User} {after : Store}
      {left : Session}
      (hlogin : FederatedLogin gateway moment claims before.store before.session outcome after
        left) :
      Performed gateway moment before (.completeFederated claims) (outcome.map .loggedIn) after
        left []
  | completeKerberos {remoteUser : Option String} {outcome : Except Fault User} {after : Store}
      {left : Session}
      (hlogin : KerberosLogin gateway moment remoteUser
        (fun name => gateway.groups.told name before.directory) before.store before.session
        outcome after left) :
      Performed gateway moment before (.completeKerberos remoteUser) (kerberosAnswer outcome)
        after left (gateway.kerberosSteps remoteUser before.store before.session before.directory)

/-- Over a well-formed store an action goes one of these ways. -/
theorem perform_apply (gateway : Gateway) (moment : Moment) (action : Action)
    {context : Context Store} (h : context.store.WellFormed) :
    ∃ answer after left steps answers events,
      Performed gateway moment context action answer after left steps ∧
        gateway.perform moment action context =
          (answer, (((context.asking steps answers).withStore after).withSession left).logging
            events) := by
  cases action with
  | login kind next =>
      obtain ⟨outcome, events, hblameless, hend⟩ := login_apply gateway kind next context
      refine ⟨_, _, _, _, context.directory.opening, events,
        .login kind next outcome hblameless, ?_⟩
      rw [Context.asking_nil]
      exact Call.bind_pure_of_eq hend Answer.sentTo
  | logout =>
      obtain ⟨events, hend⟩ := logout_apply gateway context
      refine ⟨_, _, _, _, context.directory.opening, events, .logout, ?_⟩
      rw [Context.asking_nil]
      exact Call.bind_of_ok hend
  | currentUser =>
      obtain ⟨events, hend⟩ := currentUser_apply gateway context
      refine ⟨_, _, _, _, context.directory.opening, events, .currentUser, ?_⟩
      rw [Context.asking_nil]
      exact Call.bind_of_ok hend
  | completeFederated claims =>
      obtain ⟨outcome, after, left, events, hlogin, hend⟩ :=
        completeFederated_apply gateway moment claims h
      refine ⟨_, _, _, _, context.directory.opening, events, .completeFederated hlogin, ?_⟩
      rw [Context.asking_nil]
      exact Call.bind_pure_of_eq hend Answer.loggedIn
  | completeKerberos remoteUser =>
      obtain ⟨outcome, after, left, answers, events, hlogin, hend⟩ :=
        completeKerberos_asking gateway moment remoteUser h
      exact ⟨_, _, _, _, answers, events, .completeKerberos hlogin,
        Call.bind_pure_of_eq hend Answer.loggedIn⟩

/-- A Kerberos login answers with a user exactly when it ends with that user. -/
theorem kerberosAnswer_eq_ok_iff {outcome : Except Fault User} {user : User} :
    kerberosAnswer outcome = .ok (.loggedIn user) ↔ outcome = .ok user := by
  cases outcome with
  | error fault => simp
  | ok other => simp

/-- A federated login answers with a user exactly when it ends with that user. -/
theorem map_loggedIn_eq_ok_iff {outcome : Except Fault User} {user : User} :
    outcome.map Answer.loggedIn = .ok (.loggedIn user) ↔ outcome = .ok user := by
  cases outcome with
  | error fault => simp [Except.map]
  | ok other => simp [Except.map]

/-! ## What every action does -/

namespace Performed

variable {gateway : Gateway} {moment : Moment} {before : Context Store} {action : Action}
  {answer : Except Fault Answer} {after : Store} {left : Session} {steps : List Directory.Step}

theorem of_completeFederated {claims : Claims}
    (h : Performed gateway moment before (.completeFederated claims) answer after left steps) :
    ∃ outcome, FederatedLogin gateway moment claims before.store before.session outcome after left ∧
      answer = outcome.map .loggedIn ∧ steps = [] := by
  cases h with
  | completeFederated hlogin => exact ⟨_, hlogin, rfl, rfl⟩

theorem of_completeKerberos {remoteUser : Option String}
    (h : Performed gateway moment before (.completeKerberos remoteUser) answer after left steps) :
    ∃ outcome, KerberosLogin gateway moment remoteUser
        (fun name => gateway.groups.told name before.directory) before.store before.session
        outcome after left ∧
      answer = kerberosAnswer outcome ∧
      steps = gateway.kerberosSteps remoteUser before.store before.session before.directory := by
  cases h with
  | completeKerberos hlogin => exact ⟨_, hlogin, rfl, rfl⟩

theorem wellFormed (h : Performed gateway moment before action answer after left steps)
    (hstore : before.store.WellFormed) (hfresh : before.store.users.get? moment.id = none) :
    after.WellFormed := by
  cases h with
  | login | logout | currentUser => exact hstore
  | completeFederated hlogin => exact hlogin.wellFormed hstore hfresh
  | completeKerberos hlogin => exact hlogin.wellFormed hstore hfresh

theorem grows (h : Performed gateway moment before action answer after left steps)
    (hstore : before.store.WellFormed) : Store.Grows before.store after := by
  cases h with
  | login | logout | currentUser => exact Store.Grows.refl before.store
  | completeFederated hlogin => exact hlogin.grows hstore
  | completeKerberos hlogin => exact hlogin.grows hstore

theorem named (h : Performed gateway moment before action answer after left steps)
    (hstore : before.store.WellFormed) (hnamed : before.store.Named) : after.Named := by
  cases h with
  | login | logout | currentUser => exact hnamed
  | completeFederated hlogin => exact hlogin.named hstore hnamed
  | completeKerberos hlogin => exact hlogin.named hstore hnamed

end Performed

end SignOn.Gateway
