import Mathlib.Data.List.TakeWhile
import SignOn.Text.Blank
import SignOn.Text.Split

/-!
# What the readers of texts accept

Each reader of `SignOn.Text` as a statement about the characters of the text: a
text starts with another (`startsWith_iff`), is cut at the first separator
(`cut?_eq_some_iff`), is the same as another up to one character at the ends
(`dropEnd_eq_iff`).

An item (`IsItem`) is a text that survives in a list with commas between: it is cut
out of its join (`pieces_joined`) and not touched by trimming (`trim_eq_self`), and what
is trimmed after a cut is an item (`isItem_trim`).
-/

set_option autoImplicit false

namespace SignOn.Text

/-! ## Heads -/

/-- Dropping a head leaves what follows it. -/
theorem dropHead?_eq_some_iff {head text rest : List Char} :
    dropHead? head text = some rest ↔ text = head ++ rest := by
  -- over the head, which is compared with the text character by character
  induction head generalizing text with
  | nil => simp [dropHead?]
  | cons h head ih =>
      cases text with
      | nil => simp [dropHead?]
      | cons c text =>
          simp only [dropHead?, List.cons_append, List.cons.injEq]
          split
          · next he => simp [ih, he]
          · next he => simp [Ne.symm he]

/-- Dropping an end leaves what stands before it. -/
theorem dropTail?_eq_some_iff {tail text rest : List Char} :
    dropTail? tail text = some rest ↔ text = rest ++ tail := by
  -- the end is read backwards, where it is a head
  rw [dropTail?, Option.map_eq_some_iff]
  constructor
  · rintro ⟨back, hback, rfl⟩
    rw [← List.reverse_inj, List.reverse_append, List.reverse_reverse]
    exact dropHead?_eq_some_iff.mp hback
  · rintro rfl
    refine ⟨rest.reverse, ?_, List.reverse_reverse rest⟩
    exact dropHead?_eq_some_iff.mpr List.reverse_append

/-- A text starts with another when its characters do. -/
theorem startsWith_iff {head text : String} :
    startsWith head text = true ↔ head.toList <+: text.toList := by
  rw [startsWith, Option.isSome_iff_exists]
  refine exists_congr fun rest => ?_
  rw [dropHead?_eq_some_iff, eq_comm]

/-! ## Separators -/

/-- A cut at the first separator. -/
theorem splitFirst?_eq_some_iff {sep : Char} {cs before after : List Char} :
    splitFirst? sep cs = some (before, after) ↔ cs = before ++ sep :: after ∧ sep ∉ before := by
  induction cs generalizing before with
  | nil => simp [splitFirst?]
  | cons c cs ih =>
      rw [splitFirst?]
      split
      · next he =>
          subst he
          constructor
          · intro h
            cases h
            exact ⟨rfl, List.not_mem_nil⟩
          · rintro ⟨h, hout⟩
            cases before with
            | nil => simp_all
            | cons b before => simp_all
      · next he =>
          cases before with
          | nil => simp [he]
          | cons b before =>
              rw [Option.map_eq_some_iff]
              constructor
              · rintro ⟨⟨front, back⟩, hcut, h⟩
                cases h
                obtain ⟨rfl, hout⟩ := ih.mp hcut
                exact ⟨rfl, by simp [Ne.symm he, hout]⟩
              · rintro ⟨h, hout⟩
                cases h
                exact ⟨(before, after), ih.mpr ⟨rfl, fun hm => hout (List.mem_cons_of_mem _ hm)⟩,
                  rfl⟩

/-- A text without the separator is not cut. -/
theorem splitFirst?_of_not_mem {sep : Char} {cs : List Char} (h : sep ∉ cs) :
    splitFirst? sep cs = none := by
  cases hcut : splitFirst? sep cs with
  | none => rfl
  | some parts =>
      obtain ⟨rfl, -⟩ := splitFirst?_eq_some_iff.mp hcut
      simp at h

/-- A text is cut at its first separator. -/
theorem cut?_eq_some_iff {sep : Char} {text before after : String} :
    cut? sep text = some (before, after) ↔
      text.toList = before.toList ++ sep :: after.toList ∧ sep ∉ before.toList := by
  rw [← splitFirst?_eq_some_iff, cut?, Option.map_eq_some_iff]
  constructor
  · rintro ⟨⟨front, back⟩, hcut, h⟩
    cases h
    simpa using hcut
  · intro h
    exact ⟨_, h, by simp⟩

/-- A text without the separator is one piece. -/
theorem splitAll_of_not_mem {sep : Char} {cs : List Char} (h : sep ∉ cs) :
    splitAll sep cs = [cs] := by
  induction cs with
  | nil => rfl
  | cons c cs ih =>
      rw [List.mem_cons, not_or] at h
      rw [splitAll, if_neg (Ne.symm h.1), ih h.2]

/-- The pieces of a text are those before a separator and those after it. -/
theorem splitAll_append (sep : Char) (before after : List Char) :
    splitAll sep (before ++ sep :: after) = splitAll sep before ++ splitAll sep after := by
  induction before with
  | nil => simp [splitAll]
  | cons c before ih =>
      rw [List.cons_append, splitAll, splitAll]
      split
      · rw [ih, List.cons_append]
      · rw [ih]
        cases hpieces : splitAll sep before with
        | nil => exact absurd hpieces (splitAll_ne_nil sep before)
        | cons piece pieces => rfl

/-- No separator stands in a piece. -/
theorem not_mem_of_mem_splitAll {sep : Char} {cs piece : List Char}
    (h : piece ∈ splitAll sep cs) : sep ∉ piece := by
  induction cs generalizing piece with
  | nil =>
      rw [List.mem_singleton.mp h]
      exact List.not_mem_nil
  | cons c cs ih =>
      rw [splitAll] at h
      split at h
      · rcases List.mem_cons.mp h with rfl | hrest
        · exact List.not_mem_nil
        · exact ih hrest
      · next hne =>
          cases hpieces : splitAll sep cs with
          | nil => exact absurd hpieces (splitAll_ne_nil sep cs)
          | cons first rest =>
              rw [hpieces] at h ih
              rcases List.mem_cons.mp h with rfl | hrest
              · rw [List.mem_cons, not_or]
                exact ⟨Ne.symm hne, ih (List.mem_cons_self ..)⟩
              · exact ih (List.mem_cons_of_mem _ hrest)

/-- Pieces without the separator are cut out of their join again. -/
theorem splitAll_joinAll {sep : Char} {pieces : List (List Char)} (hne : pieces ≠ [])
    (h : ∀ piece ∈ pieces, sep ∉ piece) : splitAll sep (joinAll sep pieces) = pieces := by
  induction pieces with
  | nil => exact absurd rfl hne
  | cons piece pieces ih =>
      obtain ⟨hpiece, hrest⟩ := List.forall_mem_cons.mp h
      cases pieces with
      | nil => exact splitAll_of_not_mem hpiece
      | cons next pieces =>
          rw [joinAll, splitAll_append, splitAll_of_not_mem hpiece, ih (List.cons_ne_nil _ _) hrest,
            List.singleton_append]

/-- A character of joined texts stands in the separator or in one of them. -/
theorem mem_joined {sep : String} {texts : List String} {c : Char}
    (h : c ∈ (joined sep texts).toList) : c ∈ sep.toList ∨ ∃ text ∈ texts, c ∈ text.toList := by
  induction texts with
  | nil => cases h
  | cons text texts ih =>
      cases texts with
      | nil => exact Or.inr ⟨text, List.mem_cons_self .., h⟩
      | cons next texts =>
          rw [joined, String.toList_append, String.toList_append, List.mem_append,
            List.mem_append] at h
          rcases h with (htext | hsep) | hrest
          · exact Or.inr ⟨text, List.mem_cons_self .., htext⟩
          · exact Or.inl hsep
          · rcases ih hrest with hsep | ⟨other, hother, hin⟩
            · exact Or.inl hsep
            · exact Or.inr ⟨other, List.mem_cons_of_mem _ hother, hin⟩

/-- A character of joined pieces is the separator or stands in one of them. -/
theorem mem_joinAll {sep : Char} {pieces : List (List Char)} {c : Char}
    (h : c ∈ joinAll sep pieces) : c = sep ∨ ∃ piece ∈ pieces, c ∈ piece := by
  induction pieces with
  | nil => cases h
  | cons piece pieces ih =>
      cases pieces with
      | nil => exact Or.inr ⟨piece, List.mem_cons_self .., h⟩
      | cons next pieces =>
          rw [joinAll, List.mem_append, List.mem_cons] at h
          rcases h with hpiece | hsep | hrest
          · exact Or.inr ⟨piece, List.mem_cons_self .., hpiece⟩
          · exact Or.inl hsep
          · rcases ih hrest with hsep | ⟨other, hother, hin⟩
            · exact Or.inl hsep
            · exact Or.inr ⟨other, List.mem_cons_of_mem _ hother, hin⟩

/-- The characters of joined texts. -/
theorem toList_joined {sep : Char} {glue : String} (h : glue.toList = [sep])
    (texts : List String) : (joined glue texts).toList = joinAll sep (texts.map String.toList) := by
  induction texts with
  | nil => rfl
  | cons text texts ih =>
      cases texts with
      | nil => rfl
      | cons next texts =>
          rw [joined, String.toList_append, String.toList_append, ih, h, List.append_assoc]
          rfl

/-- Texts without the separator are cut out of their join again. -/
theorem pieces_joined {sep : Char} {glue : String} (hglue : glue.toList = [sep])
    {texts : List String} (hne : texts ≠ []) (h : ∀ text ∈ texts, sep ∉ text.toList) :
    pieces sep (joined glue texts) = texts := by
  have hplain : ∀ piece ∈ texts.map String.toList, sep ∉ piece := by
    intro piece hpiece
    obtain ⟨text, htext, rfl⟩ := List.mem_map.mp hpiece
    exact h text htext
  rw [pieces, toList_joined hglue, splitAll_joinAll (mt List.map_eq_nil_iff.mp hne) hplain,
    List.map_map]
  exact (List.map_congr_left fun text _ => String.ofList_toList).trans (List.map_id texts)

/-- No separator stands in a piece of a text. -/
theorem not_mem_of_mem_pieces {sep : Char} {text piece : String} (h : piece ∈ pieces sep text) :
    sep ∉ piece.toList := by
  obtain ⟨cs, hcs, rfl⟩ := List.mem_map.mp h
  rw [String.toList_ofList]
  exact not_mem_of_mem_splitAll hcs

/-- A text is the join of its pieces. -/
theorem joined_pieces {sep : Char} {glue : String} (h : glue.toList = [sep]) (text : String) :
    joined glue (pieces sep text) = text := by
  apply String.toList_injective
  rw [toList_joined h, pieces, List.map_map]
  have hback : (splitAll sep text.toList).map (String.toList ∘ String.ofList) =
      splitAll sep text.toList :=
    (List.map_congr_left fun cs _ => String.toList_ofList).trans (List.map_id _)
  rw [hback, joinAll_splitAll]

/-! ## Ends -/

/-- What is dropped at the end of a text is nothing but `c`. -/
theorem toList_dropEnd (c : Char) (text : String) :
    ∃ n, text.toList = (dropEnd c text).toList ++ List.replicate n c := by
  -- the end is read backwards, where it is the first run of `c`
  have hend : text.toList.reverse.takeWhile (· = c) =
      List.replicate (text.toList.reverse.takeWhile (· = c)).length c := by
    rw [List.eq_replicate_iff]
    exact ⟨rfl, fun b hb => by simpa using List.mem_takeWhile_imp hb⟩
  refine ⟨(text.toList.reverse.takeWhile (· = c)).length, ?_⟩
  have hall := List.takeWhile_append_dropWhile (p := (· = c)) (l := text.toList.reverse)
  rw [hend] at hall
  have hback := congrArg List.reverse hall
  simpa [dropEnd] using hback.symm

/-- A character at the end is dropped as often as it stands there. -/
theorem dropEnd_of_append {c : Char} {text : String} {stem : List Char} {n : Nat}
    (h : text.toList = stem ++ List.replicate n c) :
    dropEnd c text = dropEnd c (String.ofList stem) := by
  have hrun : (List.replicate n c ++ stem.reverse).dropWhile (· = c) =
      stem.reverse.dropWhile (· = c) := by
    rw [List.dropWhile_append_of_pos]
    intro b hb
    simp [List.eq_of_mem_replicate hb]
  rw [dropEnd, dropEnd, h, List.reverse_append, List.reverse_replicate, hrun, String.toList_ofList]

/-- Texts are the same without `c` at their ends when they have one stem, followed
by occurrences of `c` alone. -/
theorem dropEnd_eq_iff {c : Char} {a b : String} :
    dropEnd c a = dropEnd c b ↔ ∃ stem m n,
      a.toList = stem ++ List.replicate m c ∧ b.toList = stem ++ List.replicate n c := by
  constructor
  · intro h
    obtain ⟨m, ha⟩ := toList_dropEnd c a
    obtain ⟨n, hb⟩ := toList_dropEnd c b
    rw [← h] at hb
    exact ⟨_, m, n, ha, hb⟩
  · rintro ⟨stem, m, n, ha, hb⟩
    rw [dropEnd_of_append ha, dropEnd_of_append hb]

/-! ## Blanks -/

/-- No blank stands at either end. -/
structure IsTrimmed (cs : List Char) : Prop where
  head : ∀ c ∈ cs.head?, isBlank c = false
  last : ∀ c ∈ cs.getLast?, isBlank c = false

/-- Both ends are looked at. -/
theorem isTrimmed_iff {cs : List Char} :
    IsTrimmed cs ↔ cs.head?.all (!isBlank ·) = true ∧ cs.getLast?.all (!isBlank ·) = true := by
  simp only [Option.all_eq_true, Bool.not_eq_true']
  exact ⟨fun h => ⟨h.head, h.last⟩, fun h => ⟨h.1, h.2⟩⟩

instance (cs : List Char) : Decidable (IsTrimmed cs) :=
  decidable_of_iff' _ isTrimmed_iff

/-- Behind the blanks at its start a text begins with no blank. -/
theorem head?_dropWhile_isBlank {cs : List Char} {c : Char}
    (h : (cs.dropWhile isBlank).head? = some c) : isBlank c = false := by
  have hhead := List.head?_dropWhile_not isBlank cs
  rw [h] at hhead
  exact hhead

/-- A text that begins with no blank loses nothing at its start. -/
theorem dropWhile_isBlank_eq_self {cs : List Char} (h : ∀ c ∈ cs.head?, isBlank c = false) :
    cs.dropWhile isBlank = cs := by
  cases cs with
  | nil => rfl
  | cons c cs => exact List.dropWhile_cons_of_neg (by simp [h c rfl])

/-- What is left of a text stands in it. -/
theorem prefix_of_trimEnd (cs : List Char) : trimEnd cs <+: cs := by
  have hsuffix : cs.reverse.dropWhile isBlank <:+ cs.reverse := List.dropWhile_suffix isBlank
  exact List.reverse_suffix.mp (by rwa [trimEnd, List.reverse_reverse])

/-- A trimmed text has no blanks at its ends. -/
theorem isTrimmed_trimmed (cs : List Char) : IsTrimmed (trimmed cs) where
  head := by
    intro c hc
    obtain ⟨rest, hrest⟩ := prefix_of_trimEnd (cs.dropWhile isBlank)
    refine head?_dropWhile_isBlank (?_ : (cs.dropWhile isBlank).head? = some c)
    rw [← hrest, List.head?_append]
    exact Option.or_eq_some_iff.mpr (Or.inl hc)
  last := by
    intro c hc
    rw [trimmed, trimEnd, List.getLast?_reverse] at hc
    exact head?_dropWhile_isBlank hc

/-- A text without blanks at its ends stays as it is. -/
theorem trimmed_eq_self {cs : List Char} (h : IsTrimmed cs) : trimmed cs = cs := by
  have hback : ∀ c ∈ cs.reverse.head?, isBlank c = false := by
    rw [List.head?_reverse]
    exact h.last
  rw [trimmed, dropWhile_isBlank_eq_self h.head, trimEnd, dropWhile_isBlank_eq_self hback,
    List.reverse_reverse]

/-- A character that is left was there. -/
theorem mem_of_mem_trimmed {cs : List Char} {c : Char} (h : c ∈ trimmed cs) : c ∈ cs :=
  (List.dropWhile_suffix isBlank).subset ((prefix_of_trimEnd _).subset h)

/-! ## Items of a list -/

/-- A text that may stand in a list with commas between: no comma stands in it, and no blank
at its ends. -/
structure IsItem (text : String) : Prop where
  plain : ',' ∉ text.toList
  trimmed : IsTrimmed text.toList

instance (text : String) : Decidable (IsItem text) :=
  decidable_of_iff (',' ∉ text.toList ∧ IsTrimmed text.toList)
    ⟨fun h => ⟨h.1, h.2⟩, fun h => ⟨h.plain, h.trimmed⟩⟩

/-- A text without commas is an item once it is trimmed. -/
theorem isItem_trim {text : String} (h : ',' ∉ text.toList) : IsItem (trim text) where
  plain := by
    rw [trim, String.toList_ofList]
    exact fun hmem => h (mem_of_mem_trimmed hmem)
  trimmed := by
    rw [trim, String.toList_ofList]
    exact isTrimmed_trimmed text.toList

/-- An item is trimmed already. -/
theorem trim_eq_self {text : String} (h : IsTrimmed text.toList) : trim text = text := by
  rw [trim, trimmed_eq_self h, String.ofList_toList]

end SignOn.Text
