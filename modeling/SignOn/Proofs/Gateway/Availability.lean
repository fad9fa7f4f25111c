import SignOn.Proofs.Gateway.Footprint

/-!
# Calls for which a mechanism is missing

A call is served when it never fails for want of a mechanism (`Served`). Over any store, also
one whose operations fail, everything a login does behind the question for its mechanism is
served. So a login fails for want of a mechanism exactly when its own is off
(`completeFederated_noMechanism_iff`, `completeKerberos_noMechanism_iff`), and a session of
nobody is sent to log in exactly by a mechanism that is on (`login_of_nobody`).
-/

set_option autoImplicit false

namespace SignOn.Gateway

open Call Contract

variable {σ : Type}

/-! ## Logins -/

/-- No fault says that a mechanism is missing. -/
def Served : Contract σ := fun _ fault? _ => fault? ≠ some .noMechanism

theorem storeLenient_served : StoreLenient (Served : Contract σ) where
  refl _ := nofun
  failed := id
  trans _ hthen := hthen
  logging _ _ := nofun
  posting _ _ := nofun
  others _ hne _ := fun hfault => hne (Option.some.inj hfault)
  storing _ _ := nofun
  internal _ _ hinternal := by
    intro hfault
    rw [Option.some.inj hfault] at hinternal
    cases hinternal

/-- No other fault is told as a missing mechanism. -/
theorem kerberosFault_eq_noMechanism_iff {fault : Fault} :
    kerberosFault fault = .noMechanism ↔ fault = .noMechanism := by
  cases fault <;> simp [kerberosFault]

variable [UserStore σ]

theorem concludes_served : Concludes (Served : Contract σ) Served := by
  refine concludes_of_storeLenient storeLenient_served (fun _ _ => nofun) ?_
  intro before fault after hserved hfault
  exact hserved (congrArg some (kerberosFault_eq_noMechanism_iff.mp (Option.some.inj hfault)))

variable {gateway : Gateway} (moment : Moment)

/-- A federated login lacks a mechanism when the name may log in and federated login is off. -/
theorem completeFederated_noMechanism_iff (claims : Claims) (context : Context σ) :
    (gateway.completeFederated moment claims context).1 = .error .noMechanism ↔
      gateway.isEnabled .federated = false ∧
        gateway.provisioner.isAllowed (gateway.provisioner.nameOf claims.identityUrl) = true := by
  cases hon : gateway.isEnabled .federated with
  | true =>
      refine iff_of_false ?_ (by simp)
      rw [← Fault.of?_eq_some_iff]
      exact keeps_completeFederated gateway moment concludes_served claims (by simp [hon]) context
  | false =>
      cases hallowed : gateway.provisioner.isAllowed
          (gateway.provisioner.nameOf claims.identityUrl) with
      | false => simp [completeFederated, bind_apply, hallowed, log, fail]
      | true =>
          simp [completeFederated, bind_apply, hallowed, hon, userBehind, Option.filter, log, fail]

/-- A Kerberos login lacks a mechanism exactly when Kerberos login is off. -/
theorem completeKerberos_noMechanism_iff (remoteUser : Option String) (context : Context σ) :
    (gateway.completeKerberos moment remoteUser context).1 = .error .noMechanism ↔
      gateway.isEnabled .directory = false := by
  cases hon : gateway.isEnabled .directory with
  | true =>
      refine iff_of_false ?_ (by simp)
      rw [← Fault.of?_eq_some_iff]
      exact keeps_completeKerberos gateway moment concludes_served remoteUser (by simp [hon])
        (fun _ _ _ _ _ _ => nofun) context
  | false =>
      refine iff_of_true ?_ rfl
      rw [completeKerberos, tryKerberos, hon]
      rfl

/-! ## Starting a login -/

/-- A session of nobody is sent where the mechanism of the kind sends it, if it is on. -/
theorem login_of_nobody {context : Context σ}
    (hnobody : (gateway.currentUser context).1 = .ok none) (kind : MechanismKind) (next : String) :
    (gateway.login kind next context).1 =
      match gateway.mechanism? kind with
      | some mechanism => .ok (mechanism.loginUrl next)
      | none => .error .noMechanism := by
  have hcurrent : gateway.currentUser context = (.ok none, (gateway.currentUser context).2) :=
    Prod.ext hnobody rfl
  rw [login, bind_of_ok hcurrent]
  cases gateway.mechanism? kind with
  | some mechanism => rfl
  | none => rfl

end SignOn.Gateway
