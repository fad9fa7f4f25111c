import SignOn.Store.Basic

/-!
# A store with outages

A store around another one, whose look-ups pass over chosen users and whose
next call of one chosen operation fails.
-/

set_option autoImplicit false

namespace SignOn

/-- Operations of a store. -/
inductive StoreOperation where
  | findByName
  | findById
  | create
  | save
  | findBinding
  | bind
deriving Repr, DecidableEq

/-- A store with outages. -/
structure FlakyStore (σ : Type) where
  inner : σ
  /-- Users no look-up finds. -/
  hidden : List UserId
  /-- The operation that fails next, and how. -/
  pending : Option (StoreOperation × StoreFault)
deriving Repr

namespace FlakyStore

variable {σ α : Type}

/-- Fails once with the pending fault of `operation`, and calls `act` otherwise. -/
def guarded (operation : StoreOperation) (act : σ → Store.Reply σ α) (store : FlakyStore σ) :
    Store.Reply (FlakyStore σ) α :=
  match store.pending with
  | some (failing, fault) =>
    if failing = operation then (.error fault, { store with pending := none })
    else
      let (answer, inner) := act store.inner
      (answer, { store with inner := inner })
  | none =>
    let (answer, inner) := act store.inner
    (answer, { store with inner := inner })

/-- The found user unless it is hidden. -/
def visible (hidden : List UserId) (found : Option User) : Option User :=
  found.filter fun user => user.id ∉ hidden

/-- A look-up that passes over hidden users. -/
def lookup (operation : StoreOperation) (act : σ → Store.Reply σ (Option User))
    (store : FlakyStore σ) : Store.Reply (FlakyStore σ) (Option User) :=
  let (answer, left) := guarded operation act store
  (answer.map (visible store.hidden), left)

instance [UserStore σ] : UserStore (FlakyStore σ) where
  findByName name := lookup .findByName (UserStore.findByName name)
  findById id := lookup .findById (UserStore.findById id)
  create moment new := guarded .create (UserStore.create moment new)
  save time user := guarded .save (UserStore.save time user)
  findBinding principal := guarded .findBinding (UserStore.findBinding principal)
  bind binding := guarded .bind (UserStore.bind binding)

end FlakyStore

end SignOn
