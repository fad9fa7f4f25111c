/-!
# Tables

Keys with one value each, oldest key first; a table holds the proof that no key
stands in it twice. The reading of a table after each operation is given by
`Table.get?_put`, `Table.get?_erase` and `Table.get?_empty`, and
`Table.get?_eq_some_iff` reads an entry as a value under its key, wherever it stands
(`Table.get?_eq_of_perm`).
-/

set_option autoImplicit false

namespace SignOn

/-- Keys with their values, oldest key first. -/
structure Table (κ α : Type) where
  entries : List (κ × α)
  /-- No key stands twice. -/
  distinct : (entries.map Prod.fst).Nodup
deriving Repr, DecidableEq

namespace Table

variable {κ α : Type} [DecidableEq κ]

/-- The table without keys. -/
def empty : Table κ α := ⟨[], List.nodup_nil⟩

/-- First value paired with `key` in `entries`. -/
def find (key : κ) : List (κ × α) → Option α
  | [] => none
  | (k, value) :: entries => if k = key then some value else find key entries

/-- Entries with `value` under `key`, in the place of an older value if there is
one and at the end otherwise. -/
def place (key : κ) (value : α) : List (κ × α) → List (κ × α)
  | [] => [(key, value)]
  | (k, old) :: entries =>
    if k = key then (k, value) :: entries else (k, old) :: place key value entries

/-- Placing a value adds its key at the end unless the key is there. -/
theorem keys_place (key : κ) (value : α) (entries : List (κ × α)) :
    (place key value entries).map Prod.fst =
      if key ∈ entries.map Prod.fst then entries.map Prod.fst
      else entries.map Prod.fst ++ [key] := by
  induction entries with
  | nil => rfl
  | cons entry entries ih =>
      obtain ⟨k, old⟩ := entry
      simp only [place]
      by_cases h : k = key
      · subst h
        simp
      · rw [if_neg h, List.map_cons, ih]
        by_cases hm : key ∈ entries.map Prod.fst
        · simp [hm]
        · simp [hm, Ne.symm h]

theorem distinct_place (key : κ) (value : α) {entries : List (κ × α)}
    (h : (entries.map Prod.fst).Nodup) : ((place key value entries).map Prod.fst).Nodup := by
  rw [keys_place]
  split
  · exact h
  · next hm =>
      refine List.nodup_append.mpr ⟨h, by simp, ?_⟩
      intro a ha b hb
      have hk : b = key := by simpa using hb
      subst hk
      exact fun he => hm (he ▸ ha)

omit [DecidableEq κ] in
theorem distinct_filter (keep : κ × α → Bool) {entries : List (κ × α)}
    (h : (entries.map Prod.fst).Nodup) : ((entries.filter keep).map Prod.fst).Nodup :=
  h.sublist (List.filter_sublist.map Prod.fst)

/-- Value under `key`. -/
def get? (table : Table κ α) (key : κ) : Option α :=
  find key table.entries

/-- Whether `key` has a value. -/
def contains (table : Table κ α) (key : κ) : Bool :=
  (table.get? key).isSome

/-- The table with `value` under `key`. -/
def put (table : Table κ α) (key : κ) (value : α) : Table κ α :=
  ⟨place key value table.entries, distinct_place key value table.distinct⟩

/-- The table without `key`. -/
def erase (table : Table κ α) (key : κ) : Table κ α :=
  ⟨table.entries.filter (·.1 ≠ key), distinct_filter _ table.distinct⟩

/-- Number of keys. -/
def size (table : Table κ α) : Nat :=
  table.entries.length

/-- The table of `entries`; of several values of a key the last one stays. -/
def ofList (entries : List (κ × α)) : Table κ α :=
  entries.foldl (fun table entry => table.put entry.1 entry.2) empty

/-! ## Reading after writing -/

/-- The first value paired with a key is the only one in a list without repeated keys. -/
theorem find_eq_some_iff (key : κ) (value : α) {entries : List (κ × α)}
    (h : (entries.map Prod.fst).Nodup) :
    find key entries = some value ↔ (key, value) ∈ entries := by
  induction entries with
  | nil => simp [find]
  | cons entry entries ih =>
      obtain ⟨k, old⟩ := entry
      obtain ⟨hk, hrest⟩ := List.nodup_cons.mp h
      simp only [find, List.mem_cons, Prod.mk.injEq]
      by_cases he : k = key
      · subst he
        have hout : (k, value) ∉ entries :=
          fun hm => hk (List.mem_map.mpr ⟨(k, value), hm, rfl⟩)
        simp [hout, eq_comm]
      · simp [he, ih hrest, Ne.symm he]

/-- The values of a table are its entries. -/
theorem get?_eq_some_iff (table : Table κ α) (key : κ) (value : α) :
    table.get? key = some value ↔ (key, value) ∈ table.entries :=
  find_eq_some_iff key value table.distinct

/-- The order of the entries does not show in their values. -/
theorem get?_eq_of_perm {a b : Table κ α} (h : a.entries.Perm b.entries) (key : κ) :
    a.get? key = b.get? key := by
  apply Option.ext
  intro value
  rw [get?_eq_some_iff, get?_eq_some_iff, h.mem_iff]

@[simp]
theorem get?_empty (key : κ) : (empty : Table κ α).get? key = none := rfl

theorem find_place (key other : κ) (value : α) (entries : List (κ × α)) :
    find other (place key value entries) =
      if key = other then some value else find other entries := by
  induction entries with
  | nil => rfl
  | cons entry entries ih =>
    obtain ⟨k, old⟩ := entry
    simp only [place]
    split
    · next h =>
      subst h
      simp only [find]
      split <;> rfl
    · next h =>
      simp only [find, ih]
      split
      · next hk =>
        subst hk
        simp [Ne.symm h]
      · rfl

theorem get?_put (table : Table κ α) (key other : κ) (value : α) :
    (table.put key value).get? other =
      if key = other then some value else table.get? other :=
  find_place key other value table.entries

@[simp]
theorem get?_put_self (table : Table κ α) (key : κ) (value : α) :
    (table.put key value).get? key = some value := by
  simp [get?_put]

/-- A value that is found after a write was written, or was there under another key. -/
theorem eq_or_of_get?_put {table : Table κ α} {key other : κ} {value found : α}
    (h : (table.put key value).get? other = some found) :
    (key = other ∧ value = found) ∨ (key ≠ other ∧ table.get? other = some found) := by
  rw [get?_put] at h
  split at h
  · next he => exact Or.inl ⟨he, Option.some.inj h⟩
  · next hne => exact Or.inr ⟨hne, h⟩

theorem get?_put_of_ne (table : Table κ α) {key other : κ} (value : α) (h : key ≠ other) :
    (table.put key value).get? other = table.get? other := by
  simp [get?_put, h]

theorem find_filter (key other : κ) (entries : List (κ × α)) :
    find other (entries.filter (·.1 ≠ key)) =
      if key = other then none else find other entries := by
  induction entries with
  | nil => simp [find]
  | cons entry entries ih =>
    obtain ⟨k, value⟩ := entry
    by_cases hk : k = key
    · subst hk
      by_cases ho : k = other
      · subst ho
        simpa [find] using ih
      · simpa [find, ho] using ih
    · by_cases ho : key = other
      · subst ho
        simp only [ne_eq, hk, not_false_eq_true, decide_true, List.filter_cons_of_pos, find,
          if_false, if_true] at ih ⊢
        simpa using ih
      · simp only [ne_eq, hk, not_false_eq_true, decide_true, List.filter_cons_of_pos, find, ho,
          if_false] at ih ⊢
        split
        · rfl
        · simpa using ih

theorem get?_erase (table : Table κ α) (key other : κ) :
    (table.erase key).get? other = if key = other then none else table.get? other :=
  find_filter key other table.entries

@[simp]
theorem get?_erase_self (table : Table κ α) (key : κ) : (table.erase key).get? key = none := by
  simp [get?_erase]

theorem get?_erase_of_ne (table : Table κ α) {key other : κ} (h : key ≠ other) :
    (table.erase key).get? other = table.get? other := by
  simp [get?_erase, h]

end Table

end SignOn
