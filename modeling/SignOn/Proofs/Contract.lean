import SignOn.Proofs.Fault

/-!
# Contracts of calls

A `Contract` relates what a call meets, the fault it ends with, if it fails, and what it
leaves. A call `Call.Keeps` a contract when they are so related whatever it meets.

A call of several steps keeps a contract when its steps do and the contract goes on from step
to step (`Call.keeps_bind`). The last step may keep a weaker contract than the steps before it
(`Contract.Precedes`): a login that fails spares the session although its last step writes to
it. A contract that goes on from itself and does not mind logs, posts and faults of others is
`Contract.Lenient`, and one that does not look at the store either is `Contract.StoreLenient`.
-/

set_option autoImplicit false

namespace SignOn

variable {σ α β : Type}

/-- What a call meets, the fault it ends with, if it fails, and what it leaves. -/
abbrev Contract (σ : Type) : Type := Context σ → Option Fault → Context σ → Prop

namespace Contract

/-- Calls may fail so at once. -/
def Allows (contract : Contract σ) (fault : Fault) : Prop :=
  ∀ context, contract context (some fault) context

/-- What begins under `first` and goes on under `whole` keeps `whole`. -/
structure Precedes (first whole : Contract σ) : Prop where
  refl : ∀ context, whole context none context
  failed : ∀ {before fault after}, first before (some fault) after → whole before (some fault) after
  trans : ∀ {before middle fault? after}, first before none middle → whole middle fault? after →
    whole before fault? after

/-- A contract that goes on from call to call, and that logs, posts and faults of others keep. -/
structure Lenient (contract : Contract σ) : Prop extends Precedes contract contract where
  logging : ∀ events context, contract context none (context.logging events)
  posting : ∀ form context, contract context none (context.posting form)
  others : ∀ {fault : Fault}, fault.isInternal = false → fault ≠ .noMechanism →
    contract.Allows fault

/-- A lenient contract that does not look at the store and minds no internal fault. -/
structure StoreLenient (contract : Contract σ) : Prop extends Lenient contract where
  storing : ∀ store context, contract context none (context.withStore store)
  internal : ∀ {fault : Fault} store context, fault.isInternal = true →
    contract context (some fault) (context.withStore store)

variable {contract first whole : Contract σ} {fault : Fault}

theorem Precedes.allows (h : Precedes first whole) (hfirst : first.Allows fault) :
    whole.Allows fault := fun context => h.failed (hfirst context)

/-- Where a missing mechanism is allowed, every fault of others is. -/
theorem Lenient.allows_external (h : Lenient contract) (hmissing : contract.Allows .noMechanism)
    (hexternal : fault.isInternal = false) : contract.Allows fault := by
  by_cases hne : fault = .noMechanism
  · rw [hne]
    exact hmissing
  · exact h.others hexternal hne

/-- Over any store every fault is allowed but that of a missing mechanism. -/
theorem StoreLenient.allows (h : StoreLenient contract) (hne : fault ≠ .noMechanism) :
    contract.Allows fault := by
  cases hinternal : fault.isInternal with
  | false => exact h.others hinternal hne
  | true => exact fun context => h.internal context.store context hinternal

end Contract

namespace Call

open Contract

/-- Whatever the call meets, its fault, if it fails, and what it leaves are as agreed. -/
def Keeps (contract : Contract σ) (call : Call σ α) : Prop :=
  ∀ context, contract context (Fault.of? (call context).1) (call context).2

section Keeping

variable {contract first whole : Contract σ} {call : Call σ α}

theorem Keeps.of_imp (hcall : Keeps first call)
    (himp : ∀ {before fault? after}, first before fault? after → whole before fault? after) :
    Keeps whole call := fun context => himp (hcall context)

theorem keeps_pure (h : Precedes first whole) (value : α) :
    Keeps whole (pure value : Call σ α) := h.refl

theorem keeps_fail {fault : Fault} (h : contract.Allows fault) :
    Keeps contract (fail fault : Call σ α) := h

theorem keeps_bind {next : α → Call σ β} (h : Precedes first whole) (hcall : Keeps first call)
    (hnext : ∀ value, Keeps whole (next value)) : Keeps whole (call >>= next) := by
  intro context
  have hfirst := hcall context
  rw [bind_apply]
  -- after a fault nothing more is done
  split
  · next value after hend =>
      rw [hend] at hfirst
      exact h.trans hfirst (hnext value after)
  · next fault after hend =>
      rw [hend] at hfirst
      exact h.failed hfirst

/-- Putting an answer into another form makes no difference to a contract. -/
theorem keeps_map_iff {form : α → β} :
    Keeps contract (call >>= fun value => pure (form value)) ↔ Keeps contract call := by
  refine forall_congr' fun context => ?_
  have hend : (call >>= fun value => pure (form value)) context =
      ((call context).1.map form, (call context).2) := bind_pure_of_eq rfl form
  rw [hend, Fault.of?_map]

theorem keeps_ofExcept (h : Precedes first whole) {outcome : Except Fault α}
    (hfault : ∀ fault, outcome = .error fault → whole.Allows fault) :
    Keeps whole (ofExcept outcome) := by
  intro context
  cases houtcome : outcome with
  | ok value => exact h.refl context
  | error fault => exact hfault fault houtcome context

theorem keeps_log (h : Lenient contract) (events : List Event) : Keeps contract (log events) :=
  h.logging events

theorem keeps_post (h : Lenient contract) (form : Provider.Post) : Keeps contract (post form) :=
  h.posting form

theorem keeps_onStore (h : StoreLenient contract) (operation : σ → Store.Reply σ α) :
    Keeps contract (onStore operation) := by
  intro context
  cases hanswer : operation context.store with
  | mk answer store =>
      rw [onStore, hanswer]
      cases answer with
      | ok value => exact h.storing store context
      | error cause => exact h.internal store context rfl

/-- A changed fault is agreed to where the fault it was is. -/
theorem keeps_mapFault {change : Fault → Fault} (hcall : Keeps contract call)
    (hchange : ∀ {before fault after}, contract before (some fault) after →
      contract before (some (change fault)) after) : Keeps contract (mapFault change call) := by
  intro context
  have hkept := hcall context
  cases hend : call context with
  | mk outcome after =>
      rw [hend] at hkept
      rw [mapFault_of_eq hend]
      cases outcome with
      | ok value => exact hkept
      | error fault => exact hchange hkept

end Keeping

end Call

end SignOn
