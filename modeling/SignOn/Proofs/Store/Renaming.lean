import Mathlib.Logic.Equiv.Basic
import SignOn.Proofs.Store.WellFormed

/-!
# Stores that differ in an identifier

Two calls that do the same draw different identifiers for a new user, and save at
different times. `Store.Alike σ` says that two stores hold the same records, names
and bindings but for the renaming `σ` of identifiers and the times of the saves, and
`User.Alike σ` says so of two records. The same write to two stores that are alike
leaves them alike.
-/

set_option autoImplicit false

namespace SignOn

variable {σ : Equiv.Perm UserId}

/-- The records are the same but for the renaming and the time of the save. -/
def User.Alike (σ : Equiv.Perm UserId) (user other : User) : Prop :=
  other = { user with id := σ user.id, updatedAt := other.updatedAt }

namespace User.Alike

variable {user other : User}

theorem name_eq (h : user.Alike σ other) : other.name = user.name := by
  rw [User.Alike] at h
  rw [h]

theorem groups_eq (h : user.Alike σ other) : other.groups = user.groups := by
  rw [User.Alike] at h
  rw [h]

end User.Alike

namespace Store

variable {store other : Store}

/-- The stores are the same but for the renaming and the times of the saves. -/
structure Alike (σ : Equiv.Perm UserId) (store other : Store) : Prop where
  users : ∀ id, Option.Rel (User.Alike σ) (store.users.get? id) (other.users.get? (σ id))
  names : ∀ name, other.names.get? name = (store.names.get? name).map σ
  bindings : ∀ principal, other.bindings.get? principal =
    (store.bindings.get? principal).map fun binding => ⟨binding.principal, σ binding.user⟩

/-- The renaming leaves the identifiers of the records alone. -/
def Fixes (σ : Equiv.Perm UserId) (store : Store) : Prop :=
  ∀ id user, store.users.get? id = some user → σ id = id

/-- The exchange of two unused identifiers leaves the others alone. -/
theorem fixes_swap {first second : UserId} (hfirst : store.users.get? first = none)
    (hsecond : store.users.get? second = none) : Fixes (Equiv.swap first second) store := by
  intro id user huser
  refine Equiv.swap_apply_of_ne_of_ne ?_ ?_
  · rintro rfl
    rw [hfirst] at huser
    cases huser
  · rintro rfl
    rw [hsecond] at huser
    cases huser

namespace Fixes

variable {user : User}

theorem alike_user (h : Fixes σ store) (huser : store.users.get? user.id = some user) :
    user.Alike σ user := by
  rw [User.Alike, h user.id user huser]

/-- A well-formed store is like itself under a renaming of other identifiers. -/
theorem alike_self (h : Fixes σ store) (hstore : store.WellFormed) : Alike σ store store where
  users := by
    intro id
    cases huser : store.users.get? id with
    | some user =>
        rw [h id user huser, huser]
        rw [← hstore.id_eq huser] at huser
        exact .some (h.alike_user huser)
    -- an unused identifier is renamed to an unused one
    | none =>
        cases hrenamed : store.users.get? (σ id) with
        | none => exact .none
        | some user =>
            have hsame : σ id = id := σ.injective (h (σ id) user hrenamed)
            rw [hsame, huser] at hrenamed
            cases hrenamed
  names := by
    intro name
    cases hname : store.names.get? name with
    | none => rfl
    | some id =>
        obtain ⟨user, huser, -⟩ := hstore.name_iff.mp hname
        rw [Option.map_some, h id user huser]
  bindings := by
    intro principal
    cases hbinding : store.bindings.get? principal with
    | none => rfl
    | some binding =>
        obtain ⟨user, huser⟩ := hstore.bound hbinding
        rw [Option.map_some, h _ user huser]

end Fixes

namespace Alike

/-- A new user gets a record in both stores, each time with an identifier of its own. -/
theorem insert (h : Alike σ store other) {first second : Moment} (hid : σ first.id = second.id)
    (new : NewUser) : Alike σ (store.insert first new) (other.insert second new) where
  users := by
    intro id
    simp only [Store.insert, Table.get?_put, ← hid, σ.injective.eq_iff]
    split
    · exact .some (by simp [User.Alike, newRecord, hid])
    · exact h.users id
  names := by
    intro name
    simp only [Store.insert, Table.get?_put]
    split
    · rw [Option.map_some, hid]
    · exact h.names name
  bindings := h.bindings

/-- A record is replaced in both stores. -/
theorem replace (h : Alike σ store other) {user found : User} (huser : user.Alike σ found) :
    Alike σ (store.replace user) (other.replace found) where
  users := by
    have hid : found.id = σ user.id := congrArg User.id huser
    intro id
    simp only [Store.replace, Table.get?_put, hid, σ.injective.eq_iff]
    split
    · exact .some huser
    · exact h.users id
  names := h.names
  bindings := h.bindings

/-- A principal is bound in both stores. -/
theorem addBinding (h : Alike σ store other) (principal : String) (id : UserId) :
    Alike σ (store.addBinding ⟨principal, id⟩) (other.addBinding ⟨principal, σ id⟩) where
  users := h.users
  names := h.names
  bindings := by
    intro asked
    simp only [Store.addBinding, Table.get?_put]
    split
    · rfl
    · exact h.bindings asked

end Alike

end Store

end SignOn
