import Mathlib.Data.Set.Basic
import SignOn.Store.Basic

/-!
# The register of users

What a store of users is to those who call it: a set of records of which no two
share an identifier or a name, and owners of principals, each written once. A
`Register` carries these facts, and `Register.add`, `Register.revise` and
`Register.own` are the ways to write in it.

`Register.Step` says how a register answers a change and what it is afterwards;
a change that is refused leaves it as it was. `Step.extends` and `Steps.extends` say
that no record is lost and no principal gets another owner.
-/

set_option autoImplicit false

namespace SignOn

/-! ## Changes -/

/-- A change that is asked of a store. -/
inductive Store.Change where
  | create (moment : Moment) (new : NewUser)
  | save (time : Int) (user : User)
  | bind (binding : Binding)
deriving Repr, DecidableEq

/-- What is written by a change. -/
inductive Store.Entry where
  | user (user : User)
  | binding (binding : Binding)
deriving Repr, DecidableEq

/-! ## Registers -/

/-- User records, and the owners of principals among them. -/
structure Register where
  users : Set User
  owner? : String → Option UserId
  id_injective : ∀ {a b : User}, a ∈ users → b ∈ users → a.id = b.id → a = b
  name_injective : ∀ {a b : User}, a ∈ users → b ∈ users → a.name = b.name → a = b
  owned : ∀ {principal : String} {id : UserId}, owner? principal = some id →
    ∃ user ∈ users, user.id = id

namespace Register

/-- The register without records. -/
def empty : Register where
  users := ∅
  owner? _ := none
  id_injective := by simp
  name_injective := by simp
  owned := by simp

/-- The register with one more record, whose identifier and name are free. -/
def add (register : Register) (user : User)
    (hid : ∀ other ∈ register.users, other.id ≠ user.id)
    (hname : ∀ other ∈ register.users, other.name ≠ user.name) : Register where
  users := {other | other = user ∨ other ∈ register.users}
  owner? := register.owner?
  id_injective := by
    rintro a b (rfl | ha) (rfl | hb) he
    · rfl
    · exact absurd he.symm (hid b hb)
    · exact absurd he (hid a ha)
    · exact register.id_injective ha hb he
  name_injective := by
    rintro a b (rfl | ha) (rfl | hb) he
    · rfl
    · exact absurd he.symm (hname b hb)
    · exact absurd he (hname a ha)
    · exact register.name_injective ha hb he
  owned := by
    intro principal id howner
    obtain ⟨owner, hmem, hid⟩ := register.owned howner
    exact ⟨owner, Or.inr hmem, hid⟩

/-- The register with `user` in the place of the record with its identifier; nobody
else has its name. -/
def revise (register : Register) (user : User)
    (hname : ∀ other ∈ register.users, other.id ≠ user.id → other.name ≠ user.name) :
    Register where
  users := {other | other = user ∨ (other ∈ register.users ∧ other.id ≠ user.id)}
  owner? := register.owner?
  id_injective := by
    rintro a b (rfl | ⟨ha, hane⟩) (rfl | ⟨hb, hbne⟩) he
    · rfl
    · exact absurd he.symm hbne
    · exact absurd he hane
    · exact register.id_injective ha hb he
  name_injective := by
    rintro a b (rfl | ⟨ha, hane⟩) (rfl | ⟨hb, hbne⟩) he
    · rfl
    · exact absurd he.symm (hname b hb hbne)
    · exact absurd he (hname a ha hane)
    · exact register.name_injective ha hb he
  owned := by
    intro principal id howner
    obtain ⟨owner, hmem, hid⟩ := register.owned howner
    by_cases he : owner.id = user.id
    · exact ⟨user, Or.inl rfl, he.symm.trans hid⟩
    · exact ⟨owner, Or.inr ⟨hmem, he⟩, hid⟩

/-- The register in which a principal has an owner with a record. -/
def own (register : Register) (binding : Binding)
    (huser : ∃ user ∈ register.users, user.id = binding.user) : Register where
  users := register.users
  owner? principal :=
    if binding.principal = principal then some binding.user else register.owner? principal
  id_injective := register.id_injective
  name_injective := register.name_injective
  owned := by
    intro principal id howner
    split at howner
    · obtain rfl := Option.some.inj howner
      exact huser
    · exact register.owned howner

/-! ## Steps -/

/-- Answers of a register to a change, with the register that it becomes. -/
inductive Step (register : Register) :
    Store.Change → Except StoreFault Store.Entry → Register → Prop
  /-- A user with a new identifier and a free name gets a record. -/
  | created {moment : Moment} {new : NewUser}
      (hid : ∀ other ∈ register.users, other.id ≠ moment.id)
      (hname : ∀ other ∈ register.users, other.name ≠ new.name) :
      Step register (.create moment new) (.ok (.user (Store.newRecord moment new)))
        (register.add (Store.newRecord moment new) hid hname)
  /-- The name of a new user is taken. -/
  | nameTaken {moment : Moment} {new : NewUser} {other : User} (hother : other ∈ register.users)
      (hname : other.name = new.name) :
      Step register (.create moment new) (.error (Store.nameTaken new.name)) register
  /-- A record is replaced, perhaps under another name that is free. -/
  | saved {time : Int} {user old : User} (hold : old ∈ register.users) (hid : old.id = user.id)
      (hname : ∀ other ∈ register.users, other.id ≠ user.id → other.name ≠ user.name) :
      Step register (.save time user) (.ok (.user { user with updatedAt := time }))
        (register.revise { user with updatedAt := time } hname)
  /-- No record has the identifier. -/
  | unknown {time : Int} {user : User} (hnone : ∀ other ∈ register.users, other.id ≠ user.id) :
      Step register (.save time user) (.error (Store.noSuchUser user.id)) register
  /-- The new name of a record is another user's. -/
  | renameTaken {time : Int} {user old other : User} (hold : old ∈ register.users)
      (hid : old.id = user.id) (hother : other ∈ register.users) (hne : other.id ≠ user.id)
      (hname : other.name = user.name) :
      Step register (.save time user) (.error (Store.nameTaken user.name)) register
  /-- A free principal gets an owner. -/
  | bound {binding : Binding} (huser : ∃ user ∈ register.users, user.id = binding.user)
      (hfree : register.owner? binding.principal = none) :
      Step register (.bind binding) (.ok (.binding binding)) (register.own binding huser)
  /-- The owner has no record. -/
  | ownerless {binding : Binding} (hnone : ∀ other ∈ register.users, other.id ≠ binding.user) :
      Step register (.bind binding) (.error (Store.noSuchUser binding.user)) register
  /-- The principal has an owner. -/
  | alreadyBound {binding : Binding} {owner : UserId}
      (huser : ∃ user ∈ register.users, user.id = binding.user)
      (howner : register.owner? binding.principal = some owner) :
      Step register (.bind binding) (.error (Store.alreadyBound binding.principal)) register

/-- Answers to changes in a row, with the register after the last of them. -/
inductive Steps : Register → List Store.Change → List (Except StoreFault Store.Entry) →
    Register → Prop
  | nil {register : Register} : Steps register [] [] register
  | cons {register middle after : Register} {change : Store.Change}
      {answer : Except StoreFault Store.Entry} {changes : List Store.Change}
      {answers : List (Except StoreFault Store.Entry)} (hstep : Step register change answer middle)
      (hsteps : Steps middle changes answers after) :
      Steps register (change :: changes) (answer :: answers) after

/-! ## What a register keeps -/

/-- Every record is still there under its identifier, and every owner is the same. -/
structure Extends (before after : Register) : Prop where
  users : ∀ user ∈ before.users, ∃ later ∈ after.users, later.id = user.id
  owners : ∀ {principal : String} {id : UserId}, before.owner? principal = some id →
    after.owner? principal = some id

theorem Extends.refl (register : Register) : Extends register register where
  users := fun user huser => ⟨user, huser, rfl⟩
  owners := id

theorem Extends.trans {a b c : Register} (hab : Extends a b) (hbc : Extends b c) :
    Extends a c where
  users := by
    intro user huser
    obtain ⟨middle, hmiddle, hid⟩ := hab.users user huser
    obtain ⟨later, hlater, hid'⟩ := hbc.users middle hmiddle
    exact ⟨later, hlater, hid'.trans hid⟩
  owners := fun howner => hbc.owners (hab.owners howner)

variable {register after : Register} {change : Store.Change} {changes : List Store.Change}
  {answer : Except StoreFault Store.Entry} {answers : List (Except StoreFault Store.Entry)}

/-- No change removes a record or gives a principal another owner. -/
theorem Step.extends (h : Step register change answer after) : Extends register after := by
  cases h with
  | nameTaken | unknown | renameTaken | ownerless | alreadyBound => exact Extends.refl register
  | created =>
      exact {
        users := fun user huser => ⟨user, Or.inr huser, rfl⟩
        owners := id }
  | @saved _ user =>
      refine ⟨?_, id⟩
      intro other hother
      by_cases he : other.id = user.id
      · exact ⟨_, Or.inl rfl, he.symm⟩
      · exact ⟨other, Or.inr ⟨hother, he⟩, rfl⟩
  | @bound binding _ hfree =>
      refine ⟨fun user huser => ⟨user, huser, rfl⟩, ?_⟩
      -- an owner that was there is not the principal's that has just got one
      intro principal id howner
      have hne : binding.principal ≠ principal := by
        rintro rfl
        rw [hfree] at howner
        cases howner
      simpa [own, hne] using howner

theorem Steps.extends (h : Steps register changes answers after) : Extends register after := by
  induction h with
  | nil => exact Extends.refl _
  | cons hstep _ ih => exact hstep.extends.trans ih

end Register

end SignOn
