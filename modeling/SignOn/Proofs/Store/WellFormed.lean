import SignOn.Store.Basic

/-!
# Well-formed stores

The three tables of a store hold overlapping facts. `Store.WellFormed` says that
they agree: a record stands under its own identifier, the names are exactly those
of the records, and a binding stands under its own principal and belongs to a
record. In a well-formed store a look-up by name and one by identifier find the
same records (`userNamed?_eq_some_iff`).

Each operation is described by the store it leaves when it succeeds: `insert`,
`replace` and `addBinding`, with what they keep of a well-formed store.
-/

set_option autoImplicit false

namespace SignOn.Store

/-- The tables of a store agree. -/
structure WellFormed (store : Store) : Prop where
  /-- A record stands under its own identifier. -/
  id_eq : ∀ {id : UserId} {user : User}, store.users.get? id = some user → user.id = id
  /-- The names are those of the records. -/
  name_iff : ∀ {name : String} {id : UserId}, store.names.get? name = some id ↔
    ∃ user, store.users.get? id = some user ∧ user.name = name
  /-- A binding stands under its own principal. -/
  principal_eq : ∀ {principal : String} {binding : Binding},
    store.bindings.get? principal = some binding → binding.principal = principal
  /-- A binding belongs to a record. -/
  bound : ∀ {principal : String} {binding : Binding},
    store.bindings.get? principal = some binding → ∃ user, store.users.get? binding.user = some user

/-- Every record has a name that is not empty. -/
def Named (store : Store) : Prop :=
  ∀ id user, store.users.get? id = some user → user.name ≠ ""

/-- Every name of the first store stands for the same record in the second. -/
def Grows (before after : Store) : Prop :=
  ∀ name id, before.names.get? name = some id → after.names.get? name = some id

theorem Grows.refl (store : Store) : Grows store store := fun _ _ h => h

theorem Grows.trans {a b c : Store} (hab : Grows a b) (hbc : Grows b c) : Grows a c :=
  fun name id h => hbc name id (hab name id h)

theorem wellFormed_empty : empty.WellFormed where
  id_eq := by simp [empty]
  name_iff := by simp [empty]
  principal_eq := by simp [empty]
  bound := by simp [empty]

theorem named_empty : empty.Named := by
  intro id user h
  simp [empty] at h

/-! ## Look-ups -/

section Lookups

variable {store : Store}

/-- A look-up by name finds the records of that name. -/
theorem userNamed?_eq_some_iff (h : store.WellFormed) {name : String} {user : User} :
    store.userNamed? name = some user ↔
      store.users.get? user.id = some user ∧ user.name = name := by
  constructor
  · intro hfound
    -- the name leads to an identifier, and the record under it has that name
    obtain ⟨id, hid, huser⟩ := Option.bind_eq_some_iff.mp hfound
    obtain ⟨other, hother, hname⟩ := h.name_iff.mp hid
    have hsame : other = user := by rw [hother] at huser; exact Option.some.inj huser
    subst hsame
    exact ⟨by rw [h.id_eq hother]; exact hother, hname⟩
  · rintro ⟨huser, hname⟩
    exact Option.bind_eq_some_iff.mpr ⟨user.id, h.name_iff.mpr ⟨user, huser, hname⟩, huser⟩

/-- Only a name that is not taken finds nobody. -/
theorem userNamed?_eq_none_iff (h : store.WellFormed) {name : String} :
    store.userNamed? name = none ↔ store.names.get? name = none := by
  constructor
  · intro hnone
    cases hid : store.names.get? name with
    | none => rfl
    | some id =>
        obtain ⟨user, huser, -⟩ := h.name_iff.mp hid
        simp [userNamed?, hid, huser] at hnone
  · intro hnone
    simp [userNamed?, hnone]

/-- The user found by a name is the one the name stands for. -/
theorem names_get?_of_userNamed? (h : store.WellFormed) {name : String} {user : User}
    (hfound : store.userNamed? name = some user) : store.names.get? name = some user.id :=
  h.name_iff.mpr ⟨user, (userNamed?_eq_some_iff h).mp hfound⟩

/-- Looking a name up finds the record whose identifier the name stands for. -/
theorem map_id_userNamed? (h : store.WellFormed) (name : String) :
    (store.userNamed? name).map User.id = store.names.get? name := by
  cases hfound : store.userNamed? name with
  | none => exact ((userNamed?_eq_none_iff h).mp hfound).symm
  | some user => exact (names_get?_of_userNamed? h hfound).symm

end Lookups

/-! ## New records -/

/-- The store with a record for a new user. -/
def insert (moment : Moment) (new : NewUser) (store : Store) : Store :=
  { store with
    users := store.users.put moment.id (newRecord moment new)
    names := store.names.put new.name moment.id }

section Insert

variable {store : Store} {moment : Moment} {new : NewUser}

/-- A name that is not taken gets a record. -/
theorem create_eq_insert (hname : store.names.get? new.name = none) :
    create moment new store = (.ok (newRecord moment new), store.insert moment new) := by
  simp [create, insert, Table.contains, hname]

theorem grows_insert (hname : store.names.get? new.name = none) :
    Grows store (store.insert moment new) := by
  intro name id hid
  have hne : new.name ≠ name := by
    intro he
    rw [he, hid] at hname
    cases hname
  rw [insert, Table.get?_put_of_ne _ _ hne]
  exact hid

theorem named_insert (h : store.Named) (hname : new.name ≠ "") :
    (store.insert moment new).Named := by
  intro id user huser
  rcases Table.eq_or_of_get?_put huser with ⟨-, rfl⟩ | ⟨-, hold⟩
  · exact hname
  · exact h id user hold

theorem wellFormed_insert (h : store.WellFormed) (hid : store.users.get? moment.id = none)
    (hname : store.names.get? new.name = none) : (store.insert moment new).WellFormed where
  id_eq := by
    intro id user huser
    rcases Table.eq_or_of_get?_put huser with ⟨rfl, rfl⟩ | ⟨-, hold⟩
    · rfl
    · exact h.id_eq hold
  name_iff := by
    intro name id
    simp only [insert, Table.get?_put]
    by_cases hn : new.name = name
    -- the new name stands for the new record alone
    · subst hn
      rw [if_pos rfl]
      constructor
      · intro he
        obtain rfl := Option.some.inj he
        exact ⟨newRecord moment new, by rw [if_pos rfl], rfl⟩
      · rintro ⟨user, huser, hu⟩
        split at huser
        · next he => rw [he]
        -- an older record of that name would have taken it
        · rw [h.name_iff.mpr ⟨user, huser, hu⟩] at hname
          cases hname
    -- any other name stands for an old record, whose identifier is not the new one
    · rw [if_neg hn, h.name_iff]
      refine exists_congr fun user => ?_
      by_cases hi : moment.id = id
      · subst hi
        rw [if_pos rfl, hid]
        constructor
        · rintro ⟨hnone, -⟩
          cases hnone
        · rintro ⟨huser, hu⟩
          obtain rfl := Option.some.inj huser
          exact absurd hu hn
      · rw [if_neg hi]
  principal_eq := h.principal_eq
  bound := by
    intro principal binding hb
    obtain ⟨user, huser⟩ := h.bound hb
    by_cases hi : moment.id = binding.user
    · exact ⟨newRecord moment new, by simp [insert, hi]⟩
    · exact ⟨user, by simpa [insert, Table.get?_put_of_ne _ _ hi] using huser⟩

theorem users_get?_insert_self : (store.insert moment new).users.get? moment.id =
    some (newRecord moment new) := by
  simp [insert]

end Insert

/-! ## Saved records -/

/-- The store with `user` in the place of the record with its identifier. -/
def replace (user : User) (store : Store) : Store :=
  { store with users := store.users.put user.id user }

section Replace

variable {store : Store} {old user : User}

/-- A record that keeps its name is replaced. -/
theorem save_eq_replace {time : Int} (hold : store.users.get? user.id = some old)
    (hname : old.name = user.name) :
    save time user store =
      (.ok { user with updatedAt := time }, store.replace { user with updatedAt := time }) := by
  simp [save, hold, hname, rename, replace]

theorem grows_replace : Grows store (store.replace user) := fun _ _ h => h

theorem named_replace (h : store.Named) (hname : user.name ≠ "") : (store.replace user).Named := by
  intro id other hother
  rcases Table.eq_or_of_get?_put hother with ⟨-, rfl⟩ | ⟨-, hkept⟩
  · exact hname
  · exact h id other hkept

theorem wellFormed_replace (h : store.WellFormed) (hold : store.users.get? user.id = some old)
    (hname : old.name = user.name) : (store.replace user).WellFormed where
  id_eq := by
    intro id other hother
    rcases Table.eq_or_of_get?_put hother with ⟨rfl, rfl⟩ | ⟨-, hkept⟩
    · rfl
    · exact h.id_eq hkept
  name_iff := by
    intro name id
    simp only [replace, Table.get?_put]
    rw [h.name_iff]
    by_cases hi : user.id = id
    -- the record that is replaced had the same name
    · subst hi
      simp [hold, hname]
    · simp [hi]
  principal_eq := h.principal_eq
  bound := by
    intro principal binding hb
    obtain ⟨other, hother⟩ := h.bound hb
    by_cases hi : user.id = binding.user
    · exact ⟨user, by simp [replace, hi]⟩
    · exact ⟨other, by simpa [replace, Table.get?_put_of_ne _ _ hi] using hother⟩

end Replace

/-! ## New bindings -/

/-- The store with a binding. -/
def addBinding (binding : Binding) (store : Store) : Store :=
  { store with bindings := store.bindings.put binding.principal binding }

section AddBinding

variable {store : Store} {binding : Binding} {user : User}

/-- A principal that is not bound is bound to a record. -/
theorem bind_eq_addBinding (huser : store.users.get? binding.user = some user)
    (hfree : store.bindings.get? binding.principal = none) :
    bind binding store = (.ok binding, store.addBinding binding) := by
  simp [bind, addBinding, Table.contains, huser, hfree]

theorem grows_addBinding : Grows store (store.addBinding binding) := fun _ _ h => h

theorem named_addBinding (h : store.Named) : (store.addBinding binding).Named := h

theorem wellFormed_addBinding (h : store.WellFormed)
    (huser : store.users.get? binding.user = some user) :
    (store.addBinding binding).WellFormed where
  id_eq := h.id_eq
  name_iff := h.name_iff
  principal_eq := by
    intro principal other hother
    rcases Table.eq_or_of_get?_put hother with ⟨rfl, rfl⟩ | ⟨-, hold⟩
    · rfl
    · exact h.principal_eq hold
  bound := by
    intro principal other hother
    rcases Table.eq_or_of_get?_put hother with ⟨-, rfl⟩ | ⟨-, hold⟩
    · exact ⟨user, huser⟩
    · exact h.bound hold

end AddBinding

end SignOn.Store
