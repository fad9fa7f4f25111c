import SignOn.Proofs.Form
import SignOn.Url.Parse

/-!
# Hosts and paths without marks

A question mark starts the query of a written URL and a number sign its fragment. Whatever
text a host or a path is read from, none of these marks stands in the host
(`Host.not_mem_parseSpecial`, `Host.not_mem_parseOpaque`) or in the path
(`UrlPath.not_mem_parseSegments`) that is read.
-/

set_option autoImplicit false

namespace SignOn

open SignOn.Text

/-- The two characters that start a query or a fragment. -/
def IsMark (mark : Char) : Prop := mark = '?' ∨ mark = '#'

/-! ## Readings that succeed -/

section Readings

variable {ε α β : Type}

theorem exists_of_bind_eq_ok {first : Except ε α} {next : α → Except ε β} {value : β}
    (h : first >>= next = .ok value) : ∃ read, first = .ok read ∧ next read = .ok value := by
  cases first with
  | error fault => cases h
  | ok read => exact ⟨read, rfl, h⟩

theorem exists_of_map_eq_ok {first : Except ε α} {form : α → β} {value : β}
    (h : first.map form = .ok value) : ∃ read, first = .ok read ∧ form read = value := by
  cases first with
  | error fault => cases h
  | ok read => exact ⟨read, rfl, Except.ok.inj h⟩

/-- What a partial function makes of a list is made of its elements. -/
theorem exists_of_mem_mapM {f : α → Option β} {xs : List α} {ys : List β}
    (h : xs.mapM f = some ys) {y : β} (hy : y ∈ ys) : ∃ x ∈ xs, f x = some y := by
  induction xs generalizing ys with
  | nil =>
      obtain rfl := Option.some.inj h
      cases hy
  | cons x xs ih =>
      rw [List.mapM_cons] at h
      obtain ⟨first, hfirst, hrest⟩ := Option.bind_eq_some_iff.mp h
      obtain ⟨rest, hlater, hall⟩ := Option.bind_eq_some_iff.mp hrest
      obtain rfl := Option.some.inj hall
      rcases List.mem_cons.mp hy with rfl | hin
      · exact ⟨x, List.mem_cons_self .., hfirst⟩
      · obtain ⟨other, hother, hmade⟩ := ih hlater hin
        exact ⟨other, List.mem_cons_of_mem _ hother, hmade⟩

end Readings

section Marks

variable {mark : Char} (hmark : IsMark mark)

include hmark

/-- What holds of both characters holds of a mark. -/
@[elab_as_elim]
theorem IsMark.holds {P : Char → Prop} (hquestion : P '?') (hnumber : P '#') : P mark := by
  rcases hmark with rfl | rfl
  · exact hquestion
  · exact hnumber

/-- A mark is not any other character. -/
theorem IsMark.ne {c : Char} (hc : c ∉ ['?', '#']) : mark ≠ c := by
  rintro rfl
  exact hc (hmark.holds (by decide) (by decide))

/-! ## Codings -/

namespace Url

theorem not_mem_escapeByte (b : UInt8) : mark ∉ Form.escapeByte b := by
  have hall := Form.forall_byte (P := fun b => '?' ∉ Form.escapeByte b ∧ '#' ∉ Form.escapeByte b)
    (by decide +kernel)
  obtain ⟨hquestion, hnumber⟩ := hall b
  exact hmark.holds hquestion hnumber

/-- A mark does not come out of percent coding when it is coded or does not go in. -/
theorem not_mem_percentEncode {coded : Char → Bool} {cs : List Char}
    (hout : coded mark = true ∨ mark ∉ cs) : mark ∉ Percent.encode coded cs := by
  intro hmem
  obtain ⟨c, hc, hin⟩ := List.mem_flatMap.mp hmem
  split at hin
  · obtain ⟨b, -, hb⟩ := List.mem_flatMap.mp hin
    exact not_mem_escapeByte hmark b hb
  · next hplain =>
      obtain rfl := List.mem_singleton.mp hin
      rcases hout with hcoded | hnot
      · exact hplain hcoded
      · exact hnot hc

theorem not_mem_encodeText {coded : Char → Bool} {cs : List Char}
    (hout : coded mark = true ∨ mark ∉ cs) : mark ∉ (Percent.encodeText coded cs).toList := by
  rw [Percent.encodeText, String.toList_ofList]
  exact not_mem_percentEncode hmark hout

theorem not_mem_toDigits {base : Nat} (hbase : 1 < base) (n : Nat) :
    mark ∉ Nat.toDigits base n := by
  have hdigit (m : Nat) : mark ≠ Nat.digitChar m :=
    hmark.holds (Nat.digitChar_ne '?' (by decide)).symm (Nat.digitChar_ne '#' (by decide)).symm
  induction n using Nat.strongRecOn with
  | ind n ih =>
      rw [Nat.toDigits_eq_if hbase]
      split
      · simpa using hdigit n
      · have hless : n / base < n := Nat.div_lt_self (by omega) hbase
        simpa using ⟨ih _ hless, hdigit (n % base)⟩

/-! ## Domain names -/

namespace Punycode

theorem not_mem_digits (bias place n : Nat) : mark ∉ digits bias place n := by
  have hdigit {m : Nat} (h : m < 36) : mark ≠ digit m := by
    have hall : ∀ m ∈ List.range 36, '?' ≠ digit m ∧ '#' ≠ digit m := by decide
    obtain ⟨hquestion, hnumber⟩ := hall m (List.mem_range.mpr h)
    exact hmark.holds hquestion hnumber
  induction n using Nat.strongRecOn generalizing place with
  | ind n ih =>
      have hlow := one_le_threshold place bias
      have hhigh := threshold_le place bias
      rw [digits]
      split
      · simpa using hdigit (by omega)
      · have hless := Nat.mod_lt (n - threshold place bias)
          (show 0 < 36 - threshold place bias by omega)
        have hdiv := Nat.div_le_self (n - threshold place bias) (36 - threshold place bias)
        rw [List.mem_cons, not_or]
        exact ⟨hdigit (by omega), ih _ (by omega) _⟩

/-- Going past a character writes digits at most. -/
theorem not_mem_pass {ascii target : Nat} {writing : Writing} (c : Char)
    (h : mark ∉ writing.written) : mark ∉ (writing.pass ascii target c).written := by
  rw [Writing.pass]
  split
  · exact h
  · split
    · simpa using ⟨h, not_mem_digits hmark _ _ _⟩
    · exact h

/-- So does a round through all characters. -/
theorem not_mem_round {cs : List Char} {ascii : Nat} {writing : Writing} (target : Nat)
    (h : mark ∉ writing.written) : mark ∉ (writing.round cs ascii target).written := by
  have hpassed (start : Writing) (hstart : mark ∉ start.written) :
      mark ∉ (cs.foldl (Writing.pass ascii target) start).written :=
    List.foldlRecOn cs _ (motive := fun writing : Writing => mark ∉ writing.written) hstart
      fun _ hbefore c _ => not_mem_pass hmark c hbefore
  exact hpassed _ h

theorem not_mem_encode {cs : List Char} (h : mark ∉ cs) : mark ∉ encode cs := by
  have hascii : mark ∉ cs.filter isAscii := fun hmem => h (List.mem_filter.mp hmem).1
  have hwritten (start : Writing) (hstart : mark ∉ start.written) :
      mark ∉ ((targets cs).foldl (Writing.round cs (cs.filter isAscii).length) start).written :=
    List.foldlRecOn (targets cs) _ (motive := fun writing : Writing => mark ∉ writing.written)
      hstart fun _ hbefore target _ => not_mem_round hmark target hbefore
  have hdash : mark ≠ '-' := hmark.ne (by decide)
  rw [encode, List.mem_append, not_or]
  refine ⟨?_, hwritten _ List.not_mem_nil⟩
  split
  · exact List.not_mem_nil
  · rw [List.mem_append, not_or]
    exact ⟨hascii, by simpa using hdash⟩

end Punycode

namespace Idna

/-- A label that may stand in a name has no mark in its ASCII form either. -/
theorem not_mem_asciiLabel? {label ascii : List Char} (hlabel : isLabel label = true)
    (h : asciiLabel? label = some ascii) : mark ∉ ascii := by
  have hforbidden : isForbidden mark = true := hmark.holds (by decide) (by decide)
  have hout : mark ∉ label := by
    intro hmem
    rw [isLabel, Bool.and_eq_true, Bool.and_eq_true, Bool.not_eq_true',
      List.any_eq_false] at hlabel
    exact hlabel.1.1 mark hmem hforbidden
  have hhead : mark ∉ codedHead := hmark.holds (by decide) (by decide)
  rw [asciiLabel?] at h
  split at h
  · obtain rfl := Option.some.inj h
    exact hout
  · split at h
    · obtain rfl := Option.some.inj h
      rw [List.mem_append, not_or]
      exact ⟨hhead, Punycode.not_mem_encode hmark hout⟩
    · cases h

theorem not_mem_toAscii? {domain name : List Char} (h : toAscii? domain = some name) :
    mark ∉ name := by
  obtain ⟨mapped, -, hmapped⟩ := Option.bind_eq_some_iff.mp h
  obtain ⟨labels, -, hlabels⟩ := Option.bind_eq_some_iff.mp hmapped
  split at hlabels
  · next hname =>
      obtain ⟨pieces, hpieces, hjoined⟩ := Option.bind_eq_some_iff.mp hlabels
      obtain rfl := Option.some.inj hjoined
      rw [isName, Bool.and_eq_true, List.all_eq_true] at hname
      intro hmem
      rcases mem_joinAll hmem with hdot | ⟨piece, hpiece, hin⟩
      · exact hmark.ne (by decide) hdot
      · obtain ⟨label, hlabel, hascii⟩ := exists_of_mem_mapM hpieces hpiece
        exact not_mem_asciiLabel? hmark (hname.1 label hlabel) hascii hin
  · cases hlabels

end Idna

end Url

/-! ## Hosts -/

namespace Host

theorem not_mem_ipv4Text (address : Nat) : mark ∉ (ipv4Text address).toList := by
  intro hmem
  rw [ipv4Text] at hmem
  rcases mem_joined hmem with hdot | ⟨text, htext, hin⟩
  · exact hmark.ne (by decide) (List.mem_singleton.mp hdot)
  · obtain ⟨unit, -, rfl⟩ := List.mem_map.mp htext
    rw [Nat.toString_eq_ofList_toDigits, String.toList_ofList] at hin
    exact Url.not_mem_toDigits hmark (by decide) _ hin

theorem not_mem_groupsText (groups : List Nat) : mark ∉ (groupsText groups).toList := by
  intro hmem
  rw [groupsText] at hmem
  rcases mem_joined hmem with hcolon | ⟨text, htext, hin⟩
  · exact hmark.ne (by decide) (List.mem_singleton.mp hcolon)
  · obtain ⟨group, -, rfl⟩ := List.mem_map.mp htext
    rw [hexText, String.toList_ofList] at hin
    exact Url.not_mem_toDigits hmark (by decide) _ hin

theorem not_mem_ipv6Text (groups : List Nat) : mark ∉ (ipv6Text groups).toList := by
  have hcolon : mark ≠ ':' := hmark.ne (by decide)
  rw [ipv6Text]
  split
  split
  · exact not_mem_groupsText hmark _
  · simp [not_mem_groupsText hmark, hcolon]

theorem not_mem_bracketed {inner : List Char} {host : Host} (h : bracketed inner = .ok host) :
    mark ∉ host.text.toList := by
  have hopen : mark ≠ '[' := hmark.ne (by decide)
  have hclose : mark ≠ ']' := hmark.ne (by decide)
  rw [bracketed] at h
  split at h
  · obtain rfl := Except.ok.inj h
    simp [text, not_mem_ipv6Text hmark, hopen, hclose]
  · cases h

theorem not_mem_ofAscii {name : List Char} (hname : mark ∉ name) {host : Host}
    (h : ofAscii name = .ok host) : mark ∉ host.text.toList := by
  rw [ofAscii] at h
  split at h
  · cases h
  · split at h
    · split at h
      · obtain rfl := Except.ok.inj h
        exact not_mem_ipv4Text hmark _
      · cases h
    · obtain rfl := Except.ok.inj h
      rw [text, String.toList_ofList]
      exact hname

theorem not_mem_parseSpecial {cs : List Char} {host : Host} (h : parseSpecial cs = .ok host) :
    mark ∉ host.text.toList := by
  unfold parseSpecial at h
  split at h
  · exact not_mem_bracketed hmark h
  · split at h
    · cases h
    · next name hname => exact not_mem_ofAscii hmark (Url.Idna.not_mem_toAscii? hmark hname) h

theorem not_mem_parseOpaque {cs : List Char} {host : Host}
    (h : parseOpaque cs = .ok (some host)) : mark ∉ host.text.toList := by
  unfold parseOpaque at h
  split at h
  · cases h
  · obtain ⟨read, hread, hhost⟩ := exists_of_map_eq_ok h
    obtain rfl := Option.some.inj hhost
    exact not_mem_bracketed hmark hread
  · split at h
    · cases h
    · next hforbidden =>
        have hout : mark ∉ cs := by
          intro hmem
          apply hforbidden
          exact List.any_eq_true.mpr ⟨mark, hmem, hmark.holds (by decide) (by decide)⟩
        obtain rfl := Option.some.inj (Except.ok.inj h)
        exact Url.not_mem_encodeText hmark (Or.inr hout)

end Host

/-! ## Paths -/

namespace UrlPath

omit hmark in
theorem mem_of_mem_dropLast {kept : List (List Char)} {segment : List Char}
    (h : segment ∈ dropLast kept) : segment ∈ kept := by
  cases kept with
  | nil => cases h
  | cons first kept =>
      rw [dropLast] at h
      split at h
      · exact h
      · exact List.mem_cons_of_mem _ h

theorem not_mem_colonDrive {segment : List Char} (h : mark ∉ segment) :
    mark ∉ colonDrive segment := by
  have hcolon : mark ≠ ':' := hmark.ne (by decide)
  unfold colonDrive
  split
  · split
    · simp_all
    · exact h
  · exact h

/-- Segments without marks keep them out when their dots are resolved. -/
theorem not_mem_resolve (drives : Bool) {segments kept : List (List Char)}
    (hsegments : ∀ segment ∈ segments, mark ∉ segment) (hkept : ∀ segment ∈ kept, mark ∉ segment) :
    ∀ segment ∈ resolve drives kept segments, mark ∉ segment := by
  -- as the segments are read, with those that are kept so far
  induction segments generalizing kept with
  | nil =>
      intro segment hsegment
      exact hkept segment (List.mem_reverse.mp hsegment)
  | cons first rest ih =>
      have hrest : ∀ segment ∈ rest, mark ∉ segment :=
        fun segment hsegment => hsegments segment (List.mem_cons_of_mem _ hsegment)
      have hfirst : mark ∉ first := hsegments first (List.mem_cons_self ..)
      have hdropped : ∀ segment ∈ dropLast kept, mark ∉ segment :=
        fun segment hsegment => hkept segment (mem_of_mem_dropLast hsegment)
      rw [resolve]
      split
      · apply ih hrest
        split
        · exact List.forall_mem_cons.mpr ⟨List.not_mem_nil, hdropped⟩
        · exact hdropped
      · split
        · apply ih hrest
          split
          · exact List.forall_mem_cons.mpr ⟨List.not_mem_nil, hkept⟩
          · exact hkept
        · split
          · exact ih hrest (List.forall_mem_singleton.mpr (not_mem_colonDrive hmark hfirst))
          · exact ih hrest (List.forall_mem_cons.mpr ⟨hfirst, hkept⟩)

theorem not_mem_parseSegments (special drives : Bool) (cs : List Char) :
    ∀ segment ∈ parseSegments special drives cs, mark ∉ segment := by
  have hcoded : Url.Percent.inPath mark = true := hmark.holds (by decide) (by decide)
  apply not_mem_resolve hmark drives
  · intro segment hsegment
    obtain ⟨piece, -, rfl⟩ := List.mem_map.mp hsegment
    exact Url.not_mem_percentEncode hmark (Or.inl hcoded)
  · intro segment hsegment
    cases hsegment

theorem not_mem_ofSegments {parts : List (List Char)} (h : ∀ part ∈ parts, mark ∉ part) :
    mark ∉ (ofSegments parts).text.toList := by
  have hslash : mark ≠ '/' := hmark.ne (by decide)
  intro hmem
  rw [ofSegments, text, String.toList_join] at hmem
  obtain ⟨written, hwritten, hin⟩ := List.mem_flatMap.mp hmem
  obtain ⟨segment, hsegment, rfl⟩ := List.mem_map.mp hwritten
  obtain ⟨part, hpart, rfl⟩ := List.mem_map.mp hsegment
  rw [String.toList_append] at hin
  rcases List.mem_append.mp hin with hhead | hrest
  · exact hslash (List.mem_singleton.mp hhead)
  · rw [String.toList_ofList] at hrest
    exact h part hpart hrest

omit hmark in
theorem mem_of_mem_dropEmptyHead {parts : List (List Char)} {part : List Char}
    (h : part ∈ dropEmptyHead parts) : part ∈ parts := by
  induction parts with
  | nil => exact h
  | cons first parts ih =>
      unfold dropEmptyHead at h
      split at h
      · next heq =>
          obtain ⟨-, rfl⟩ := List.cons.inj heq
          exact List.mem_cons_of_mem _ (ih h)
      · exact h

theorem not_mem_parseSpecial (cs : List Char) : mark ∉ (parseSpecial cs).text.toList :=
  not_mem_ofSegments hmark (not_mem_parseSegments hmark _ _ _)

theorem not_mem_parsePlain (cs : List Char) : mark ∉ (parsePlain cs).text.toList := by
  rw [parsePlain]
  split
  · exact List.not_mem_nil
  · exact not_mem_ofSegments hmark (not_mem_parseSegments hmark _ _ _)

theorem not_mem_ofFileSegments (cs : List Char) :
    mark ∉ (ofFileSegments (fileSegments cs)).text.toList :=
  not_mem_ofSegments hmark fun part hpart =>
    not_mem_parseSegments hmark _ _ _ part (mem_of_mem_dropEmptyHead hpart)

end UrlPath

end Marks

end SignOn
