import SignOn.Proofs.Text
import SignOn.Web.Service

/-!
# Where a browser goes

A browser cleans a location before it reads it: it drops the controls and spaces at
the ends and the tabs and line ends inside. `StaysOnOrigin` says that what is left is
a path, not the host of another service. A destination that a request may name stays
on the origin unless tabs stand between its first two slashes
(`staysOnOrigin_next_iff`).
-/

set_option autoImplicit false

namespace SignOn.Web

open SignOn.Text

/-- What a browser reads of the location begins with a slash, and goes on with
neither a slash nor a backslash. -/
def StaysOnOrigin (location : String) : Prop :=
  ∃ rest, Url.cleaned location.toList = '/' :: rest ∧ rest.head? ≠ some '/' ∧
    rest.head? ≠ some '\\'

/-- Nothing but tabs stands between the first slash of the location and another. -/
def HidesSlash (location : String) : Prop :=
  ∃ n rest, location.toList = '/' :: (List.replicate n '\t' ++ '/' :: rest)

/-! ## Cleaned locations -/

/-- Whether `c` is dropped at the ends of a location. -/
def isEdge (c : Char) : Bool :=
  c.toNat ≤ 0x20

/-- What is left of the end of a location. -/
def withoutEdge (cs : List Char) : List Char :=
  (cs.reverse.dropWhile isEdge).reverse

/-- Whether `c` stays inside a location. -/
def isRead (c : Char) : Bool :=
  c ∉ ['\t', '\n', '\r']

/-- A character that stays keeps everything before it. -/
theorem withoutEdge_append_cons {c : Char} (h : isEdge c = false) (front back : List Char) :
    withoutEdge (front ++ c :: back) = front ++ c :: withoutEdge back := by
  have hend : (back.reverse ++ c :: front.reverse).dropWhile isEdge =
      back.reverse.dropWhile isEdge ++ c :: front.reverse := by
    rw [List.dropWhile_append]
    split
    · next hempty =>
        rw [List.isEmpty_iff.mp hempty, List.dropWhile_cons_of_neg (by simp [h])]
        rfl
    · rfl
  rw [withoutEdge, List.reverse_append, List.reverse_cons, List.append_assoc,
    List.singleton_append, hend, List.reverse_append, List.reverse_cons, List.reverse_reverse,
    List.append_assoc, List.singleton_append, withoutEdge]

/-- Of a location that begins with a slash the slash is read, and what stays of the
rest. -/
theorem cleaned_slash (rest : List Char) :
    Url.cleaned ('/' :: rest) = '/' :: (withoutEdge rest).filter isRead := by
  have hedge := withoutEdge_append_cons (show isEdge '/' = false by decide) [] rest
  show (withoutEdge (('/' :: rest).dropWhile isEdge)).filter isRead = _
  rw [List.dropWhile_cons_of_neg (by decide)]
  rw [List.nil_append, List.nil_append] at hedge
  rw [hedge]
  rfl

/-- What is left of the end of a location stands in it. -/
theorem withoutEdge_isHead (cs : List Char) : withoutEdge cs <+: cs := by
  have hsuffix : cs.reverse.dropWhile isEdge <:+ cs.reverse := List.dropWhile_suffix isEdge
  have hprefix := List.reverse_prefix.mpr hsuffix
  rw [List.reverse_reverse] at hprefix
  exact hprefix

/-! ## Destinations of requests -/

/-- Only a tab is dropped inside a location that can be sent. -/
theorem isRead_of_isSendable {location : String} (h : isSendable location = true) {c : Char}
    (hc : c ∈ location.toList) : isRead c = false ↔ c = '\t' := by
  have hsend := List.all_eq_true.mp h c hc
  constructor
  · intro hread
    simp only [isRead, decide_eq_false_iff_not, not_not, List.mem_cons, List.not_mem_nil,
      or_false] at hread
    rcases hread with rfl | rfl | rfl
    · rfl
    · exact absurd hsend (by decide)
    · exact absurd hsend (by decide)
  · rintro rfl
    rfl

/-- The first character that is read after a slash is a slash exactly when only tabs
stand before it. -/
theorem head?_read_iff {location : String} {rest : List Char}
    (hlocation : location.toList = '/' :: rest) (hsend : isSendable location = true) :
    ((withoutEdge rest).filter isRead).head? = some '/' ↔ HidesSlash location := by
  rw [List.head?_filter, List.find?_eq_some_iff_append]
  constructor
  -- what is passed over stands in the location, so it is tabs
  · rintro ⟨-, tabs, later, hrest, htabs⟩
    obtain ⟨back, hback⟩ := withoutEdge_isHead rest
    have hall : tabs = List.replicate tabs.length '\t' := by
      rw [List.eq_replicate_iff]
      refine ⟨rfl, ?_⟩
      intro c hc
      have hmem : c ∈ location.toList := by
        rw [hlocation, ← hback, hrest]
        simp [hc]
      apply (isRead_of_isSendable hsend hmem).mp
      simpa using htabs c hc
    refine ⟨tabs.length, later ++ back, ?_⟩
    rw [← hall, hlocation, ← hback, hrest, List.append_assoc, List.cons_append]
  · rintro ⟨n, later, h⟩
    -- a slash is no edge, so the tabs before it are not at the end
    rw [hlocation] at h
    obtain rfl := (List.cons.inj h).2
    refine ⟨rfl, List.replicate n '\t', withoutEdge later, ?_, ?_⟩
    · exact withoutEdge_append_cons (by decide) _ _
    · intro c hc
      rw [List.eq_of_mem_replicate hc]
      rfl

/-- A destination is a path: it begins with one slash and holds no backslash. -/
theorem safeNext_toList (raw : Option String) :
    ∃ rest, (safeNext raw).toList = '/' :: rest ∧ rest.head? ≠ some '/' ∧ '\\' ∉ rest := by
  have hroot : ∃ rest, "/".toList = '/' :: rest ∧ rest.head? ≠ some '/' ∧ '\\' ∉ rest :=
    ⟨[], rfl, by simp, by simp⟩
  cases raw with
  | none => exact hroot
  | some next =>
      rw [safeNext]
      split
      · next h =>
          simp only [Bool.and_eq_true, Bool.not_eq_true', ← Bool.not_eq_true, startsWith_iff] at h
          obtain ⟨⟨hslash, htwo⟩, hback⟩ := h
          obtain ⟨rest, hrest⟩ := hslash
          refine ⟨rest, hrest.symm, ?_, ?_⟩
          · intro hhead
            apply htwo
            obtain ⟨later, rfl⟩ := List.head?_eq_some_iff.mp hhead
            exact ⟨later, hrest⟩
          · intro hmem
            apply hback
            apply List.contains_iff_mem.mpr
            rw [← hrest]
            exact List.mem_append_right _ hmem
      · exact hroot

/-- A destination that a header can carry stays on the origin unless tabs stand
between its first two slashes. -/
theorem staysOnOrigin_next_iff {request : Request} (h : isSendable request.next = true) :
    StaysOnOrigin request.next ↔ ¬ HidesSlash request.next := by
  obtain ⟨rest, hnext, -, hback⟩ := safeNext_toList (request.firstValue? Route.nextParameter)
  have hlocation : request.next.toList = '/' :: rest := hnext
  have hplain : ((withoutEdge rest).filter isRead).head? ≠ some '\\' := by
    intro hhead
    have hmem := List.mem_of_mem_head? hhead
    exact hback ((withoutEdge_isHead rest).subset (List.mem_filter.mp hmem).1)
  rw [← head?_read_iff hlocation h, StaysOnOrigin, hlocation, cleaned_slash]
  constructor
  · rintro ⟨read, hread, hslash, -⟩
    rw [(List.cons.inj hread).2]
    exact hslash
  · intro hslash
    exact ⟨_, rfl, hslash, hplain⟩

end SignOn.Web
