import SignOn.Proofs.GroupAuthority
import SignOn.Provider.Basic

/-!
# Faults of the service itself

A fault of the store, or of a state that the service broke itself, is internal
(`Fault.isInternal`). An outcome is `Blameless` when it is an answer or a fault that is not
internal. Whoever tells the groups of a login and whoever confirms an assertion is blameless:
what goes wrong there is told as a fault of the directory, of the provider or of the assertion.
-/

set_option autoImplicit false

namespace SignOn

variable {α β : Type}

namespace Fault

/-- Faults of the store, and of a state that the service broke itself. -/
def isInternal : Fault → Bool
  | .store _ | .core _ | .invariant _ => true
  | _ => false

/-- The fault of an outcome, if it has one. -/
def of? : Except Fault α → Option Fault
  | .ok _ => none
  | .error fault => some fault

@[simp] theorem of?_ok (value : α) : of? (.ok value) = none := rfl

@[simp] theorem of?_error (fault : Fault) : of? (.error fault : Except Fault α) = some fault := rfl

theorem of?_eq_some_iff {outcome : Except Fault α} {fault : Fault} :
    of? outcome = some fault ↔ outcome = .error fault := by
  cases outcome with
  | ok value => simp
  | error cause => simp

/-- An answer that is put into another form keeps its fault. -/
@[simp]
theorem of?_map (outcome : Except Fault α) (form : α → β) :
    of? (outcome.map form) = of? outcome := by
  cases outcome with
  | ok value => rfl
  | error fault => rfl

end Fault

/-- An answer, or a fault that is not internal. -/
def Blameless (outcome : Except Fault α) : Prop :=
  ∀ fault, outcome = .error fault → fault.isInternal = false

@[simp]
theorem blameless_ok (value : α) : Blameless (.ok value) := by
  intro fault h
  cases h

@[simp]
theorem blameless_error_iff (fault : Fault) :
    Blameless (.error fault : Except Fault α) ↔ fault.isInternal = false := by
  constructor
  · intro h
    exact h fault rfl
  · intro h other hother
    obtain rfl := Except.error.inj hother
    exact h

theorem Blameless.bind {outcome : Except Fault α} {next : α → Except Fault β}
    (h : Blameless outcome) (hnext : ∀ value, Blameless (next value)) :
    Blameless (outcome >>= next) := by
  cases outcome with
  | error fault =>
      apply (blameless_error_iff fault).mpr
      exact h fault rfl
  | ok value => exact hnext value

@[simp]
theorem blameless_map_iff {outcome : Except Fault α} {form : α → β} :
    Blameless (outcome.map form) ↔ Blameless outcome := by
  cases outcome with
  | error fault => simp [Except.map]
  | ok value => simp [Except.map]

/-! ## The directory -/

/-- The directory is to blame for groups that are not told, or the settings. -/
theorem GroupAuthority.blameless_told (authority : GroupAuthority) (username : String)
    (script : Directory.Script) : Blameless (authority.told username script) := by
  intro fault hfault
  rcases told_fault hfault with rfl | ⟨reason, rfl | rfl⟩ <;> rfl

/-! ## Assertions and the provider -/

theorem Assertion.blameless_parse (params : Params) : Blameless (parse params) := by
  rw [parse]
  apply Blameless.bind
  · rw [checkMode]
    split <;> simp [Fault.isInternal]
  · intro _
    split <;> simp [Fault.isInternal]

namespace Provider

/-- An assertion that is not accepted is to blame itself. -/
theorem blameless_accept (provider : Provider) (base : String) (params : Assertion.Params) :
    Blameless (provider.accept base params) := by
  refine (Assertion.blameless_parse params).bind fun claims => Blameless.bind ?_ fun _ =>
    Blameless.bind ?_ fun _ => blameless_ok claims
  · rw [checkIssuer]
    split
    · simp [Fault.isInternal]
    · split <;> simp [Fault.isInternal]
  · rw [checkAddress]
    split <;> simp [Fault.isInternal]

/-- The provider is to blame for claims that it does not confirm. -/
theorem blameless_judge (claims : Claims) (reply : Option Reply) :
    Blameless (judge claims reply) := by
  cases reply with
  | none => simp [judge, Fault.isInternal]
  | some answer =>
      rw [judge]
      split
      · simp [Fault.isInternal]
      · split <;> simp [Fault.isInternal]

end Provider

end SignOn
