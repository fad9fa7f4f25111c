import Mathlib.Data.List.Basic
import SignOn.Directory.Filter
import SignOn.Proofs.Text

/-!
# Filters read back

A reader of filters that is told nothing but the text (`read?`): it cuts the text at the closing
parentheses, every component at its first equals sign, and undoes the escapes of the value.
Values are arbitrary texts and may look like escapes or like whole filters; still a filter is
read back as the criteria it was built from, value by value (`build_unambiguous`), since no written
value has a parenthesis or an asterisk in it (`not_mem_flatMap_encodeChar`) and the escapes can be
undone (`unescape?_flatMap_encodeChar`).
-/

set_option autoImplicit false

namespace SignOn.Directory.Filter

open SignOn.Text

/-! ## The reader -/

/-- What a component asks of the values of its key. -/
inductive Condition where
  /-- There is one. -/
  | presence
  /-- The text is one of them. -/
  | equals (value : String)
deriving Repr, DecidableEq

/-- What a criterion with this value asks. -/
def Condition.ofValue (value : String) : Condition :=
  if value = "*" then .presence else .equals value

/-- A key that can stand in a filter as it is. -/
def IsKey (key : String) : Prop :=
  key ≠ "" ∧ ∀ c ∈ key.toList, isSpecial c = false ∧ c ≠ '='

instance (key : String) : Decidable (IsKey key) :=
  @instDecidableAnd _ _ _
    (List.decidableBAll (fun c => isSpecial c = false ∧ c ≠ '=') key.toList)

/-- The ASCII character that two hexadecimal digits stand for. -/
def escapedChar? (high low : Char) : Option Char := do
  let code := (← hexValue? high) * 16 + (← hexValue? low)
  if code < 128 then some (Char.ofNat code) else none

/-- The value that is written as `written`. -/
def unescape? : (written : List Char) → Option (List Char)
  | [] => some []
  | c :: written =>
    if c = '\\' then
      match written with
      | high :: low :: rest => do return (← escapedChar? high low) :: (← unescape? rest)
      | _ => none
    else if isSpecial c then none
    else (unescape? written).map (c :: ·)

/-- The condition that is written as `written`. -/
def condition? (written : List Char) : Option Condition :=
  if written = ['*'] then some .presence
  else (unescape? written).map fun value => .equals (String.ofList value)

/-- The key and the condition of a component, which stands before the parenthesis that closes it. -/
def readComponent? (component : List Char) : Option (String × Condition) := do
  let (key, written) ← splitFirst? '=' (← dropHead? ['('] component)
  if IsKey (String.ofList key) then
    return (String.ofList key, ← condition? written)
  else none

/-- The keys and conditions of a filter, in their order. -/
def read? (filter : String) : Option (List (String × Condition)) := do
  let components ← dropTail? [')', ')'] (← dropHead? ['(', '&'] filter.toList)
  (splitAll ')' components).mapM readComponent?

/-! ## Values -/

/-- A digit is read as its value. -/
theorem hexValue?_hexDigit {n : Nat} (h : n < 16) : hexValue? (hexDigit n) = some n := by
  have hall : ∀ m ∈ List.range 16, hexValue? (hexDigit m) = some m := by decide
  exact hall n (List.mem_range.mpr h)

/-- A digit means nothing of its own in a filter. -/
theorem isSpecial_hexDigit {n : Nat} (h : n < 16) : isSpecial (hexDigit n) = false := by
  have hall : ∀ m ∈ List.range 16, isSpecial (hexDigit m) = false := by decide
  exact hall n (List.mem_range.mpr h)

/-- A special character is an ASCII character. -/
theorem toNat_lt_of_isSpecial {c : Char} (h : isSpecial c = true) : c.toNat < 128 := by
  have hall : specials.all (fun special => special.toNat < 128) = true := by decide
  exact of_decide_eq_true (List.all_eq_true.mp hall c (mem_specials_of_isSpecial h))

/-- An escaped character is read as it. -/
theorem escapedChar?_escaped {c : Char} (h : isSpecial c = true) :
    escapedChar? (hexDigit (c.toNat / 16)) (hexDigit (c.toNat % 16)) = some c := by
  have hbound := toNat_lt_of_isSpecial h
  have hvalue : c.toNat / 16 * 16 + c.toNat % 16 = c.toNat := by omega
  rw [escapedChar?, hexValue?_hexDigit (by omega), hexValue?_hexDigit (by omega)]
  dsimp only [bind, Option.bind]
  rw [hvalue, if_pos hbound, Char.ofNat_toNat]

/-- A character without a meaning of its own stands for itself. -/
theorem unescape?_cons {c : Char} (h : ¬ isSpecial c = true) (written : List Char) :
    unescape? (c :: written) = (unescape? written).map (c :: ·) := by
  have hbackslash : c ≠ '\\' := by
    rintro rfl
    exact h (by decide)
  -- the reader looks two characters ahead before it sees that there is no escape
  match written with
  | [] => simp [unescape?, hbackslash, h]
  | [_] => simp [unescape?, hbackslash, h]
  | _ :: _ :: _ => rw [unescape?, if_neg hbackslash, if_neg h]

/-- A written character is read as it, whatever follows. -/
theorem unescape?_encodeChar_append (c : Char) (written : List Char) :
    unescape? (encodeChar c ++ written) = (unescape? written).map (c :: ·) := by
  rw [encodeChar]
  split
  · next hspecial =>
      rw [escaped, List.cons_append, List.cons_append, List.cons_append, List.nil_append,
        unescape?, if_pos rfl, escapedChar?_escaped hspecial]
      cases unescape? written with
      | none => rfl
      | some value => rfl
  · next hplain => rw [List.singleton_append, unescape?_cons hplain]

/-- A written value is read as it was. -/
theorem unescape?_flatMap_encodeChar (value : List Char) :
    unescape? (value.flatMap encodeChar) = some value := by
  induction value with
  | nil => rfl
  | cons c value ih => rw [List.flatMap_cons, unescape?_encodeChar_append, ih, Option.map_some]

/-- The written form of a value in a component. -/
def writtenValue (value : String) : List Char :=
  if value = "*" then ['*'] else value.toList.flatMap encodeChar

/-- Of the special characters only the backslash stands in a written character. -/
theorem eq_of_mem_encodeChar {c d : Char} (h : d ∈ encodeChar c) (hd : isSpecial d = true) :
    d = '\\' := by
  rw [encodeChar] at h
  split at h
  · next hspecial =>
      have hbound := toNat_lt_of_isSpecial hspecial
      rw [escaped, List.mem_cons, List.mem_cons, List.mem_singleton] at h
      rcases h with rfl | rfl | rfl
      · rfl
      · rw [isSpecial_hexDigit (by omega)] at hd
        cases hd
      · rw [isSpecial_hexDigit (by omega)] at hd
        cases hd
  · next hplain =>
      rw [List.mem_singleton] at h
      rw [h] at hd
      exact absurd hd hplain

/-- No special character but the backslash stands in escaped text. -/
theorem not_mem_flatMap_encodeChar {mark : Char} (hmark : isSpecial mark = true)
    (hne : mark ≠ '\\') (value : List Char) : mark ∉ value.flatMap encodeChar := by
  intro hmem
  obtain ⟨c, -, hc⟩ := List.mem_flatMap.mp hmem
  exact hne (eq_of_mem_encodeChar hc hmark)

/-- Nothing in a written value closes its component. -/
theorem not_mem_writtenValue (value : String) : ')' ∉ writtenValue value := by
  rw [writtenValue]
  split
  · decide
  · exact not_mem_flatMap_encodeChar (by decide) (by decide) _

/-- A written value is read as what its criterion asks. -/
theorem condition?_writtenValue (value : String) :
    condition? (writtenValue value) = some (.ofValue value) := by
  rw [writtenValue, Condition.ofValue]
  split
  · rfl
  · -- an asterisk alone is not how another value is written
    have hne : value.toList.flatMap encodeChar ≠ ['*'] := by
      intro heq
      have hout : '*' ∉ value.toList.flatMap encodeChar :=
        not_mem_flatMap_encodeChar (by decide) (by decide) _
      rw [heq] at hout
      exact hout (List.mem_singleton_self _)
    rw [condition?, if_neg hne, unescape?_flatMap_encodeChar, Option.map_some,
      String.ofList_toList]

/-! ## Components -/

/-- A component without the parenthesis that closes it. -/
def opened (criterion : String × String) : List Char :=
  '(' :: (criterion.1.toList ++ '=' :: writtenValue criterion.2)

theorem toList_component (key value : String) :
    (component key value).toList = opened (key, value) ++ [')'] := by
  rw [component, opened, writtenValue]
  split
  · simp
  · simp [encode]

/-- A key has none of the characters that end it. -/
theorem IsKey.not_mem {key : String} (h : IsKey key) : '=' ∉ key.toList ∧ ')' ∉ key.toList :=
  ⟨fun hmem => (h.2 _ hmem).2 rfl, fun hmem => absurd (h.2 _ hmem).1 (by decide)⟩

/-- Nothing in a component closes it before its end. -/
theorem not_mem_opened {criterion : String × String} (h : IsKey criterion.1) :
    ')' ∉ opened criterion := by
  rw [opened, List.mem_cons, List.mem_append, List.mem_cons]
  rintro (hparen | hkey | heq | hvalue)
  · cases hparen
  · exact h.not_mem.2 hkey
  · cases heq
  · exact not_mem_writtenValue _ hvalue

/-- A component is read as its criterion. -/
theorem readComponent?_opened {criterion : String × String} (h : IsKey criterion.1) :
    readComponent? (opened criterion) = some (criterion.1, .ofValue criterion.2) := by
  have hhead : dropHead? ['('] (opened criterion) =
      some (criterion.1.toList ++ '=' :: writtenValue criterion.2) := dropHead?_eq_some_iff.mpr rfl
  have hcut : splitFirst? '=' (criterion.1.toList ++ '=' :: writtenValue criterion.2) =
      some (criterion.1.toList, writtenValue criterion.2) :=
    splitFirst?_eq_some_iff.mpr ⟨rfl, h.not_mem.1⟩
  rw [readComponent?, hhead, Option.bind_eq_bind, Option.bind_some, hcut]
  dsimp only [Option.bind_eq_bind, Option.bind_some]
  rw [String.ofList_toList, if_pos h, condition?_writtenValue]
  rfl

/-! ## Filters -/

/-- Criteria that a filter tells apart: there is one, and every key can stand as it is. -/
def WellKeyed (criteria : List (String × String)) : Prop :=
  criteria ≠ [] ∧ ∀ criterion ∈ criteria, IsKey criterion.1

/-- The components of a filter are its criteria, with a parenthesis after each. -/
theorem toList_join_component {criteria : List (String × String)} (h : criteria ≠ []) :
    (String.join (criteria.map fun (key, value) => component key value)).toList =
      joinAll ')' (criteria.map opened) ++ [')'] := by
  rw [String.toList_join]
  -- as `joinAll` goes: a last criterion, or one with another after it
  induction criteria with
  | nil => exact absurd rfl h
  | cons criterion criteria ih =>
      rw [List.map_cons, List.flatMap_cons, toList_component]
      cases criteria with
      | nil => simp [joinAll]
      | cons next criteria =>
          rw [ih (List.cons_ne_nil _ _)]
          simp [joinAll]

theorem toList_build {criteria : List (String × String)} (h : criteria ≠ []) :
    (build criteria).toList =
      ['(', '&'] ++ (joinAll ')' (criteria.map opened) ++ [')', ')']) := by
  rw [build, if_neg h, String.toList_append, String.toList_append, toList_join_component h]
  simp

/-- Components are read one by one. -/
theorem mapM_readComponent?_opened {criteria : List (String × String)}
    (h : ∀ criterion ∈ criteria, IsKey criterion.1) :
    (criteria.map opened).mapM readComponent? =
      some (criteria.map fun criterion => (criterion.1, .ofValue criterion.2)) := by
  induction criteria with
  | nil => rfl
  | cons criterion criteria ih =>
      obtain ⟨hkey, hrest⟩ := List.forall_mem_cons.mp h
      rw [List.map_cons, List.mapM_cons, readComponent?_opened hkey, ih hrest]
      rfl

/-- A filter is read as its criteria. -/
theorem read?_of_wellKeyed {criteria : List (String × String)} (h : WellKeyed criteria) :
    read? (build criteria) =
      some (criteria.map fun criterion => (criterion.1, .ofValue criterion.2)) := by
  have hhead := dropHead?_eq_some_iff.mpr (toList_build h.1)
  have htail : dropTail? [')', ')'] (joinAll ')' (criteria.map opened) ++ [')', ')']) =
      some (joinAll ')' (criteria.map opened)) := dropTail?_eq_some_iff.mpr rfl
  have hsplit : splitAll ')' (joinAll ')' (criteria.map opened)) = criteria.map opened := by
    refine splitAll_joinAll (mt List.map_eq_nil_iff.mp h.1) ?_
    intro piece hpiece
    obtain ⟨criterion, hmem, rfl⟩ := List.mem_map.mp hpiece
    exact not_mem_opened (h.2 criterion hmem)
  rw [read?, hhead, Option.bind_eq_bind, Option.bind_some, htail, Option.bind_some, hsplit,
    mapM_readComponent?_opened h.2]

/-- What is asked tells which value a criterion has. -/
theorem Condition.ofValue_injective : Function.Injective Condition.ofValue := by
  intro value other h
  rw [ofValue, ofValue] at h
  split at h
  · next hvalue =>
      split at h
      · next hother => rw [hvalue, hother]
      · cases h
  · split at h
    · cases h
    · exact Condition.equals.inj h

/-- One reader reads every filter as the criteria it was built from: the value `*` as a test for
presence, any other value as a test for exactly this text. So criteria with the same filter are the
same; without criteria, the filter is the one that asks for an object class. -/
theorem build_unambiguous :
    (∀ criteria, WellKeyed criteria →
      read? (build criteria) =
        some (criteria.map fun criterion => (criterion.1, Condition.ofValue criterion.2))) ∧
      (∀ criteria others, WellKeyed criteria → WellKeyed others →
        build criteria = build others → criteria = others) ∧
      build [] = build [("objectclass", "*")] := by
  refine ⟨fun criteria => read?_of_wellKeyed, ?_, rfl⟩
  intro criteria others hcriteria hothers hbuild
  have hread := read?_of_wellKeyed hcriteria
  rw [hbuild, read?_of_wellKeyed hothers] at hread
  have hpair : Function.Injective fun criterion : String × String =>
      (criterion.1, Condition.ofValue criterion.2) := by
    intro criterion other h
    obtain ⟨hkey, hvalue⟩ := Prod.mk.inj h
    exact Prod.ext hkey (Condition.ofValue_injective hvalue)
  exact (hpair.list_map (Option.some.inj hread)).symm

/-! ### A value that looks like a filter -/

/-- Criteria whose value tries to end its component and to ask for more. -/
def forged : List (String × String) := [("objectclass", "*"), ("uid", "*)(uid=carol\\2a")]

/-- The value stays one value, of the second of two components. -/
theorem build_forged :
    WellKeyed forged ∧ build forged = "(&(objectclass=*)(uid=\\2a\\29\\28uid=carol\\5c2a))" ∧
      read? (build forged) =
        some [("objectclass", .presence), ("uid", .equals "*)(uid=carol\\2a")] := by
  have hkeyed : WellKeyed forged := ⟨by decide, by decide⟩
  exact ⟨hkeyed, by decide, (build_unambiguous.1 forged hkeyed).trans rfl⟩

end SignOn.Directory.Filter
