import SignOn.Proofs.Store.Register
import SignOn.Proofs.Store.WellFormed

/-!
# A store is a register of users

`Store.Shows` reads the three tables of a store as one register. A change of the
store is a step of the register it shows, with the same answer (`shows_perform`), so
the changes made to an empty store are steps of an empty register
(`shows_changed`). What holds of registers holds of stores by this: a store
that shows a register is well-formed (`Shows.wellFormed`), and no change loses a
record or a binding (`persists_of_extends`).
-/

set_option autoImplicit false

namespace SignOn.Store

/-! ## Making changes -/

/-- Makes a change. -/
def perform (store : Store) : Change → Reply Store Entry
  | .create moment new => (create moment new store).map (Except.map .user) id
  | .save time user => (save time user store).map (Except.map .user) id
  | .bind binding => (bind binding store).map (Except.map .binding) id

/-- The store after changes. -/
def changed (store : Store) (changes : List Change) : Store :=
  changes.foldl (fun store change => (store.perform change).2) store

/-- What is answered to changes. -/
def answers (store : Store) : List Change → List (Except StoreFault Entry)
  | [] => []
  | change :: later => (store.perform change).1 :: answers (store.perform change).2 later

/-- The identifier of a new user is unused. -/
def IsFresh (store : Store) : Change → Prop
  | .create moment _ => store.users.get? moment.id = none
  | .save .. | .bind _ => True

/-- The identifier of each new user is unused when the user is created. -/
def FreshChanges (store : Store) : List Change → Prop
  | [] => True
  | change :: later => store.IsFresh change ∧ FreshChanges (store.perform change).2 later

/-- Changes with unused identifiers are two runs of such changes, wherever they are cut. -/
theorem freshChanges_append (store : Store) (earlier later : List Change) :
    store.FreshChanges (earlier ++ later) ↔
      store.FreshChanges earlier ∧ (store.changed earlier).FreshChanges later := by
  induction earlier generalizing store with
  | nil => simp [FreshChanges, changed]
  | cons change earlier ih =>
      rw [List.cons_append, FreshChanges, FreshChanges, ih, and_assoc]
      rfl

/-- A change that is refused leaves the store as it was. -/
theorem perform_of_error {store : Store} {change : Change} {fault : StoreFault}
    (h : (store.perform change).1 = .error fault) : (store.perform change).2 = store := by
  cases change with
  | create moment new =>
      simp only [perform, create] at h ⊢
      split at h
      · next htaken => simp [htaken]
      · cases h
  | save time user =>
      simp only [perform, save] at h ⊢
      split at h
      · simp
      · split at h
        · next htaken => simp [htaken]
        · cases h
  | bind binding =>
      simp only [perform, bind] at h ⊢
      split at h
      · next hnone => simp [hnone]
      · next huser =>
          split at h
          · next hbound => simp [huser, hbound]
          · cases h

/-! ## What a store shows -/

/-- The tables of a store hold the records and the owners of a register, and nothing
else. -/
structure Shows (store : Store) (register : Register) : Prop where
  users : ∀ {id : UserId} {user : User},
    store.users.get? id = some user ↔ user ∈ register.users ∧ user.id = id
  names : ∀ {name : String} {id : UserId},
    store.names.get? name = some id ↔ ∃ user ∈ register.users, user.name = name ∧ user.id = id
  bindings : ∀ {principal : String} {binding : Binding},
    store.bindings.get? principal = some binding ↔
      binding.principal = principal ∧ register.owner? principal = some binding.user

theorem shows_empty : empty.Shows Register.empty where
  users := by simp [empty, Register.empty]
  names := by simp [empty, Register.empty]
  bindings := by simp [empty, Register.empty]

namespace Shows

variable {store : Store} {register : Register}

/-- The tables of a store that shows a register agree. -/
theorem wellFormed (h : store.Shows register) : store.WellFormed where
  id_eq := fun huser => (h.users.mp huser).2
  name_iff := by
    intro name id
    rw [h.names]
    constructor
    · rintro ⟨user, huser, hname, hid⟩
      exact ⟨user, h.users.mpr ⟨huser, hid⟩, hname⟩
    · rintro ⟨user, huser, hname⟩
      obtain ⟨hmem, hid⟩ := h.users.mp huser
      exact ⟨user, hmem, hname, hid⟩
  principal_eq := fun hbinding => (h.bindings.mp hbinding).1
  bound := by
    intro principal binding hbinding
    obtain ⟨user, huser, hid⟩ := register.owned (h.bindings.mp hbinding).2
    exact ⟨user, h.users.mpr ⟨huser, hid⟩⟩

/-- A look-up by name finds the record of the register. -/
theorem userNamed?_iff (h : store.Shows register) {name : String} {user : User} :
    store.userNamed? name = some user ↔ user ∈ register.users ∧ user.name = name := by
  rw [userNamed?_eq_some_iff h.wellFormed, h.users]
  simp

theorem users_eq_none_iff (h : store.Shows register) {id : UserId} :
    store.users.get? id = none ↔ ∀ user ∈ register.users, user.id ≠ id := by
  rw [Option.eq_none_iff_forall_ne_some]
  constructor
  · intro hnone user huser hid
    exact hnone user (h.users.mpr ⟨huser, hid⟩)
  · intro hnone user huser
    obtain ⟨hmem, hid⟩ := h.users.mp huser
    exact hnone user hmem hid

theorem names_eq_none_iff (h : store.Shows register) {name : String} :
    store.names.get? name = none ↔ ∀ user ∈ register.users, user.name ≠ name := by
  rw [Option.eq_none_iff_forall_ne_some]
  constructor
  · intro hnone user huser hname
    exact hnone user.id (h.names.mpr ⟨user, huser, hname, rfl⟩)
  · intro hnone id hid
    obtain ⟨user, huser, hname, -⟩ := h.names.mp hid
    exact hnone user huser hname

theorem bindings_eq_none_iff (h : store.Shows register) {principal : String} :
    store.bindings.get? principal = none ↔ register.owner? principal = none := by
  rw [Option.eq_none_iff_forall_ne_some, Option.eq_none_iff_forall_ne_some]
  constructor
  · intro hnone id howner
    exact hnone ⟨principal, id⟩ (h.bindings.mpr ⟨rfl, howner⟩)
  · intro hnone binding hbinding
    exact hnone binding.user (h.bindings.mp hbinding).2

/-! ## Writing -/

/-- A record that is written stands beside those with other identifiers. -/
theorem users_put_iff (h : store.Shows register) (user : User) {found : User} {id : UserId} :
    (store.users.put user.id user).get? id = some found ↔
      (found = user ∨ (found ∈ register.users ∧ found.id ≠ user.id)) ∧ found.id = id := by
  rw [Table.get?_put]
  split
  · next he =>
      subst he
      constructor
      · intro hfound
        exact ⟨Or.inl (Option.some.inj hfound).symm, by rw [Option.some.inj hfound]⟩
      · rintro ⟨rfl | ⟨-, hne⟩, he⟩
        · rfl
        · exact absurd he hne
  · next hne =>
      rw [h.users]
      constructor
      · rintro ⟨hfound, rfl⟩
        exact ⟨Or.inr ⟨hfound, Ne.symm hne⟩, rfl⟩
      · rintro ⟨rfl | ⟨hfound, -⟩, he⟩
        · exact absurd he hne
        · exact ⟨hfound, he⟩

/-- A new record in the tables is a new record in the register. -/
theorem insert (h : store.Shows register) {moment : Moment} {new : NewUser}
    (hid : ∀ other ∈ register.users, other.id ≠ moment.id)
    (hname : ∀ other ∈ register.users, other.name ≠ new.name) :
    (store.insert moment new).Shows (register.add (newRecord moment new) hid hname) where
  users := by
    intro id user
    refine (h.users_put_iff (newRecord moment new)).trans (and_congr_left fun _ => ?_)
    -- nobody else has the new identifier
    constructor
    · rintro (hnew | ⟨hmem, -⟩)
      · exact Or.inl hnew
      · exact Or.inr hmem
    · rintro (hnew | hmem)
      · exact Or.inl hnew
      · exact Or.inr ⟨hmem, hid user hmem⟩
  names := by
    intro name id
    simp only [Store.insert, Table.get?_put]
    split
    · next he =>
        subst he
        constructor
        · intro hfound
          exact ⟨newRecord moment new, Or.inl rfl, rfl, Option.some.inj hfound⟩
        · rintro ⟨user, rfl | huser, hsame, rfl⟩
          · rfl
          · exact absurd hsame (hname user huser)
    · next hne =>
        rw [h.names]
        constructor
        · rintro ⟨user, huser, hsame, he⟩
          exact ⟨user, Or.inr huser, hsame, he⟩
        · rintro ⟨user, rfl | huser, hsame, he⟩
          · exact absurd hsame hne
          · exact ⟨user, huser, hsame, he⟩
  bindings := h.bindings

/-- A record that is renamed gives up its old name. -/
theorem names_get?_rename {old : String} {user : User} (hold : store.names.get? old = some user.id)
    (name : String) : (rename old user store).names.get? name =
      if user.name = name then some user.id
      else if old = name then none else store.names.get? name := by
  rw [rename]
  split
  -- a record that keeps its name does so in the table of names
  · next he =>
      subst he
      split
      · next hn => rw [← hn, hold]
      · rfl
  · rw [Table.get?_put, Table.get?_erase]

/-- A saved record in the tables is a revised record in the register. -/
theorem revise (h : store.Shows register) (user : User) {old : User} (hold : old ∈ register.users)
    (hid : old.id = user.id)
    (hname : ∀ other ∈ register.users, other.id ≠ user.id → other.name ≠ user.name) :
    ((rename old.name user store).replace user).Shows (register.revise user hname) where
  users := by
    intro id found
    have hkept : (rename old.name user store).users = store.users := by
      rw [rename]
      split <;> rfl
    rw [replace, hkept]
    exact h.users_put_iff user
  names := by
    intro name id
    have hheld : store.names.get? old.name = some user.id := h.names.mpr ⟨old, hold, rfl, hid⟩
    simp only [replace, names_get?_rename hheld]
    split
    -- the name of the saved record is nobody else's
    · next he =>
        subst he
        constructor
        · intro hfound
          exact ⟨user, Or.inl rfl, rfl, Option.some.inj hfound⟩
        · rintro ⟨found, rfl | ⟨hfound, hne⟩, hsame, rfl⟩
          · rfl
          · exact absurd hsame (hname found hfound hne)
    · next hne =>
        split
        -- the name it had was its own alone
        · next he =>
            subst he
            constructor
            · intro hnone
              cases hnone
            · rintro ⟨found, rfl | ⟨hfound, hother⟩, hsame, -⟩
              · exact absurd hsame hne
              · obtain rfl := register.name_injective hfound hold hsame
                exact absurd hid hother
        · next hnew =>
            rw [h.names]
            constructor
            · rintro ⟨found, hfound, rfl, rfl⟩
              refine ⟨found, Or.inr ⟨hfound, ?_⟩, rfl, rfl⟩
              intro he
              obtain rfl := register.id_injective hfound hold (he.trans hid.symm)
              exact hnew rfl
            · rintro ⟨found, rfl | ⟨hfound, -⟩, hsame, he⟩
              · exact absurd hsame hne
              · exact ⟨found, hfound, hsame, he⟩
  bindings := by
    intro principal binding
    have hkept : (rename old.name user store).bindings = store.bindings := by
      rw [rename]
      split <;> rfl
    simp only [replace, hkept]
    exact h.bindings

/-- A new binding in the tables is a new owner in the register. -/
theorem addBinding (h : store.Shows register) {binding : Binding}
    (huser : ∃ user ∈ register.users, user.id = binding.user) :
    (store.addBinding binding).Shows (register.own binding huser) where
  users := h.users
  names := h.names
  bindings := by
    intro principal found
    simp only [Store.addBinding, Register.own, Table.get?_put]
    split
    · next he =>
        subst he
        constructor
        · intro hfound
          obtain rfl := Option.some.inj hfound
          exact ⟨rfl, rfl⟩
        · rintro ⟨hsame, howner⟩
          obtain ⟨principal, user⟩ := found
          obtain rfl := hsame
          obtain rfl := Option.some.inj howner
          rfl
    · exact h.bindings

end Shows

/-! ## Steps -/

section Steps

variable {store : Store} {register : Register}

theorem shows_create (h : store.Shows register) {moment : Moment} (new : NewUser)
    (hfresh : store.users.get? moment.id = none) : ∃ after : Register,
    register.Step (.create moment new) (store.perform (.create moment new)).1 after ∧
      (store.perform (.create moment new)).2.Shows after := by
  cases htaken : store.names.get? new.name with
  | none =>
      have hid := h.users_eq_none_iff.mp hfresh
      have hname := h.names_eq_none_iff.mp htaken
      have hcreated : store.perform (.create moment new) =
          (.ok (.user (newRecord moment new)), store.insert moment new) := by
        rw [perform, create_eq_insert htaken]
        rfl
      rw [hcreated]
      exact ⟨_, .created hid hname, h.insert hid hname⟩
  | some id =>
      obtain ⟨other, hother, hname, -⟩ := h.names.mp htaken
      have hrefused : store.perform (.create moment new) =
          (.error (nameTaken new.name), store) := by
        simp [perform, create, Table.contains, htaken, Except.map]
      rw [hrefused]
      exact ⟨register, .nameTaken hother hname, h⟩

theorem shows_save (h : store.Shows register) (time : Int) (user : User) : ∃ after : Register,
    register.Step (.save time user) (store.perform (.save time user)).1 after ∧
      (store.perform (.save time user)).2.Shows after := by
  cases hold : store.users.get? user.id with
  | none =>
      have hrefused : store.perform (.save time user) = (.error (noSuchUser user.id), store) := by
        simp [perform, save, hold, Except.map]
      rw [hrefused]
      exact ⟨register, .unknown (h.users_eq_none_iff.mp hold), h⟩
  | some old =>
      obtain ⟨hmem, hid⟩ := h.users.mp hold
      by_cases htaken : old.name ≠ user.name ∧ store.names.contains user.name
      -- the record would take a name that another one has
      · obtain ⟨hne, hcontains⟩ := htaken
        obtain ⟨id, hfound⟩ := Option.isSome_iff_exists.mp hcontains
        obtain ⟨other, hother, hname, -⟩ := h.names.mp hfound
        have hotherId : other.id ≠ user.id := by
          intro he
          obtain rfl := register.id_injective hother hmem (he.trans hid.symm)
          exact hne hname
        have hrefused : store.perform (.save time user) =
            (.error (nameTaken user.name), store) := by
          simp [perform, save, hold, hne, hcontains, Except.map]
        rw [hrefused]
        exact ⟨register, .renameTaken hmem hid hother hotherId hname, h⟩
      -- the record keeps its name, or nobody has the new one
      · have hname : ∀ other ∈ register.users, other.id ≠ user.id → other.name ≠ user.name := by
          intro other hother hne he
          have hcontains : store.names.contains user.name = true :=
            Option.isSome_iff_exists.mpr ⟨other.id, h.names.mpr ⟨other, hother, he, rfl⟩⟩
          have hkept : old.name = user.name := by
            by_contra hrenamed
            exact htaken ⟨hrenamed, hcontains⟩
          obtain rfl := register.name_injective hother hmem (he.trans hkept.symm)
          exact hne hid
        have hsaved : store.perform (.save time user) =
            (.ok (.user { user with updatedAt := time }),
              (rename old.name user store).replace { user with updatedAt := time }) := by
          simp only [perform, save, hold, if_neg htaken]
          rfl
        rw [hsaved]
        have hshows := h.revise { user with updatedAt := time } hmem hid hname
        exact ⟨_, .saved hmem hid hname, hshows⟩

theorem shows_bind (h : store.Shows register) (binding : Binding) : ∃ after : Register,
    register.Step (.bind binding) (store.perform (.bind binding)).1 after ∧
      (store.perform (.bind binding)).2.Shows after := by
  cases howner : store.users.get? binding.user with
  | none =>
      have hrefused : store.perform (.bind binding) =
          (.error (noSuchUser binding.user), store) := by
        simp [perform, bind, Table.contains, howner, Except.map]
      rw [hrefused]
      exact ⟨register, .ownerless (h.users_eq_none_iff.mp howner), h⟩
  | some owner =>
      obtain ⟨hmem, hid⟩ := h.users.mp howner
      have huser : ∃ user ∈ register.users, user.id = binding.user := ⟨owner, hmem, hid⟩
      cases hbound : store.bindings.get? binding.principal with
      | none =>
          have hadded : store.perform (.bind binding) =
              (.ok (.binding binding), store.addBinding binding) := by
            rw [perform, bind_eq_addBinding howner hbound]
            rfl
          rw [hadded]
          exact ⟨_, .bound huser (h.bindings_eq_none_iff.mp hbound), h.addBinding huser⟩
      | some other =>
          have hrefused : store.perform (.bind binding) =
              (.error (alreadyBound binding.principal), store) := by
            simp [perform, bind, Table.contains, howner, hbound, Except.map]
          rw [hrefused]
          exact ⟨register, .alreadyBound huser (h.bindings.mp hbound).2, h⟩

/-- A change of a store is a step of the register it shows. -/
theorem shows_perform (h : store.Shows register) (change : Change)
    (hfresh : store.IsFresh change) : ∃ after : Register,
    register.Step change (store.perform change).1 after ∧ (store.perform change).2.Shows after := by
  cases change with
  | create moment new => exact shows_create h new hfresh
  | save time user => exact shows_save h time user
  | bind binding => exact shows_bind h binding

end Steps

/-! ## Runs -/

/-- Changes of a store are steps of the register it shows, with the same answers. -/
theorem shows_changed {store : Store} {register : Register} (h : store.Shows register)
    (changes : List Change) (hfresh : store.FreshChanges changes) : ∃ after : Register,
    register.Steps changes (store.answers changes) after ∧ (store.changed changes).Shows after := by
  -- over the changes from the first, with the store and the register after it
  induction changes generalizing store register with
  | nil => exact ⟨register, .nil, h⟩
  | cons change later ih =>
      obtain ⟨hunused, hlater⟩ := hfresh
      obtain ⟨middle, hstep, hmiddle⟩ := shows_perform h change hunused
      obtain ⟨after, hsteps, hafter⟩ := ih hmiddle hlater
      exact ⟨after, .cons hstep hsteps, hafter⟩

/-- The records of the first store are still there in the second, and so is every
binding. -/
structure Persists (before after : Store) : Prop where
  users : ∀ {id : UserId} {user : User}, before.users.get? id = some user →
    ∃ later, after.users.get? id = some later
  bindings : ∀ {principal : String} {binding : Binding},
    before.bindings.get? principal = some binding → after.bindings.get? principal = some binding

/-- What a register keeps, the stores that show it keep. -/
theorem persists_of_extends {before after : Store} {register later : Register}
    (hbefore : before.Shows register) (hafter : after.Shows later)
    (h : register.Extends later) : Persists before after where
  users := by
    intro id user huser
    obtain ⟨hmem, hid⟩ := hbefore.users.mp huser
    obtain ⟨kept, hkept, hsame⟩ := h.users user hmem
    exact ⟨kept, hafter.users.mpr ⟨hkept, hsame.trans hid⟩⟩
  bindings := by
    intro principal binding hbinding
    obtain ⟨hprincipal, howner⟩ := hbefore.bindings.mp hbinding
    exact hafter.bindings.mpr ⟨hprincipal, h.owners howner⟩

/-- Whatever changes are made to an empty store, its tables agree, no record and no
binding of an earlier time is lost, a refused change alters nothing, and the store
is a register of users: it answers as the register does and finds what the register
holds. -/
theorem changes_refine_register (changes : List Change)
    (hfresh : empty.FreshChanges changes) :
    (empty.changed changes).WellFormed ∧
      (∀ earlier later, changes = earlier ++ later →
        Persists (empty.changed earlier) (empty.changed changes)) ∧
      (∀ change fault, ((empty.changed changes).perform change).1 = .error fault →
        ((empty.changed changes).perform change).2 = empty.changed changes) ∧
      ∃ register : Register, Register.empty.Steps changes (empty.answers changes) register ∧
        (empty.changed changes).Shows register ∧
        ∀ name user, (empty.changed changes).userNamed? name = some user ↔
          user ∈ register.users ∧ user.name = name := by
  obtain ⟨register, hsteps, hshows⟩ := shows_changed shows_empty changes hfresh
  refine ⟨hshows.wellFormed, ?_, fun change fault => perform_of_error,
    register, hsteps, hshows, fun name user => hshows.userNamed?_iff⟩
  rintro earlier later rfl
  obtain ⟨hearlier, hlater⟩ := (freshChanges_append empty earlier later).mp hfresh
  obtain ⟨middle, -, hmiddle⟩ := shows_changed shows_empty earlier hearlier
  obtain ⟨after, hrest, hafter⟩ := shows_changed hmiddle later hlater
  have hsplit : empty.changed (earlier ++ later) = (empty.changed earlier).changed later :=
    List.foldl_append ..
  rw [hsplit]
  exact persists_of_extends hmiddle hafter hrest.extends

/-- A record without groups. -/
def plainUser (id name : String) : User :=
  { id := ⟨id⟩, name := name, mail := name ++ "@example.org", timezone := none, admin := false
    groups := none, updatedAt := 0 }

/-- Alice becomes Carol and another Alice comes; Bob cannot take her name, and the
principal of Carol is bound once. -/
def takenOver : List Change :=
  [.create ⟨⟨"1"⟩, 10⟩ ⟨"alice", "alice@example.org", none⟩,
    .create ⟨⟨"2"⟩, 20⟩ ⟨"bob", "bob@example.org", none⟩,
    .save 30 (plainUser "1" "carol"),
    .create ⟨⟨"3"⟩, 40⟩ ⟨"alice", "alice@example.com", none⟩,
    .save 50 (plainUser "2" "alice"),
    .bind ⟨"carol", ⟨"1"⟩⟩,
    .bind ⟨"carol", ⟨"2"⟩⟩]

/-- The register that is left has the new Alice, and the first one as Carol. -/
theorem register_takenOver : empty.FreshChanges takenOver ∧
    (empty.answers takenOver)[4]? = some (.error (nameTaken "alice")) ∧
    (empty.answers takenOver)[6]? = some (.error (alreadyBound "carol")) ∧
    ∃ register : Register, Register.empty.Steps takenOver (empty.answers takenOver) register ∧
      (∃ user ∈ register.users, user.name = "alice" ∧ user.id = ⟨"3"⟩) ∧
      (∃ user ∈ register.users, user.name = "carol" ∧ user.id = ⟨"1"⟩) ∧
      register.owner? "carol" = some ⟨"1"⟩ := by
  have hfresh : empty.FreshChanges takenOver :=
    ⟨rfl, rfl, trivial, rfl, trivial, trivial, trivial, trivial⟩
  obtain ⟨-, -, -, register, hsteps, hshows, -⟩ := changes_refine_register takenOver hfresh
  refine ⟨hfresh, rfl, rfl, register, hsteps, hshows.names.mp rfl, hshows.names.mp rfl, ?_⟩
  have hbinding : (empty.changed takenOver).bindings.get? "carol" = some ⟨"carol", ⟨"1"⟩⟩ := rfl
  exact (hshows.bindings.mp hbinding).2

end SignOn.Store
