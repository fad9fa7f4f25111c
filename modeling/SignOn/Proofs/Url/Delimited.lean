import Mathlib.Data.List.TakeDrop
import SignOn.Proofs.Url.Host

/-!
# Where the query of a URL stands

A URL that has been read is `Delimited`: no question mark or number sign stands before its
query, and no number sign in it (`delimited_of_parse`). So the query of its written form,
which begins at the first question mark, is its query (`queryIn?_text`).
-/

set_option autoImplicit false

namespace SignOn

open SignOn.Text

section Marks

variable {mark : Char} (hmark : IsMark mark)

include hmark

/-! ## Before the path -/

namespace Url

/-- The lower case of another character is no mark either. -/
theorem ne_lowerChar {c : Char} (h : mark ≠ c) : mark ≠ lowerChar c := by
  rw [lowerChar]
  split
  · next hupper =>
      have hlow : 65 ≤ c.toNat := hupper.1
      have hhigh : c.toNat ≤ 90 := hupper.2
      have hall : ∀ n ∈ List.range 26,
          '?' ≠ Char.ofNat (65 + n + 32) ∧ '#' ≠ Char.ofNat (65 + n + 32) := by decide
      obtain ⟨hquestion, hnumber⟩ := hall (c.toNat - 65) (List.mem_range.mpr (by omega))
      rw [show 65 + (c.toNat - 65) = c.toNat by omega] at hquestion hnumber
      exact hmark.holds hquestion hnumber
  · exact h

theorem not_mem_scheme {cs rest : List Char} {scheme : String}
    (h : cutScheme? cs = some (scheme, rest)) : mark ∉ scheme.toList := by
  have hscheme : isSchemeChar mark = false := hmark.holds (by decide) (by decide)
  unfold cutScheme? at h
  split at h
  · next first tail name after hspan =>
      split at h
      · obtain ⟨rfl, rfl⟩ := Prod.mk.inj (Option.some.inj h)
        rw [String.toList_ofList]
        intro hmem
        obtain ⟨c, hc, hlower⟩ := List.mem_map.mp hmem
        rw [List.span_eq_takeWhile_dropWhile] at hspan
        obtain ⟨rfl, -⟩ := Prod.mk.inj hspan
        have hother : mark ≠ c := by
          rintro rfl
          rw [List.mem_takeWhile_imp hc] at hscheme
          cases hscheme
        exact ne_lowerChar hmark hother hlower.symm
      · cases h
  · cases h

theorem not_mem_credentials (cs : List Char) :
    mark ∉ (credentials cs).1.toList ∧
      ∀ word, (credentials cs).2 = some word → mark ∉ word.toList := by
  have hcoded : Percent.inUserinfo mark = true := hmark.holds (by decide) (by decide)
  have hout (part : List Char) : mark ∉ (Percent.encodeText Percent.inUserinfo part).toList :=
    not_mem_encodeText hmark (Or.inl hcoded)
  unfold credentials
  split
  · exact ⟨hout _, fun word hword => by cases hword⟩
  · exact ⟨hout _, fun word hword => by cases hword⟩
  · refine ⟨hout _, ?_⟩
    intro word hword
    obtain rfl := Option.some.inj hword
    exact hout _

theorem not_mem_authorityText {authority : Authority}
    (huser : mark ∉ authority.username.toList)
    (hword : ∀ word, authority.password = some word → mark ∉ word.toList)
    (hhost : ∀ host, authority.host = some host → mark ∉ host.text.toList) :
    mark ∉ (authorityText authority).toList := by
  have hslash : mark ≠ '/' := hmark.ne (by decide)
  have hcolon : mark ≠ ':' := hmark.ne (by decide)
  have hat : mark ≠ '@' := hmark.ne (by decide)
  have hinfo : mark ∉ (userinfoText authority).toList := by
    rw [userinfoText]
    split
    · exact List.not_mem_nil
    · cases hpassword : authority.password with
      | none => simp [huser, hat]
      | some word => simp [huser, hat, hcolon, hword word hpassword]
  have hhostText : mark ∉ (authority.host.elim "" Host.text).toList := by
    cases hsome : authority.host with
    | none => exact List.not_mem_nil
    | some host => exact hhost host hsome
  have hport (port : Nat) : mark ∉ Nat.toDigits 10 port :=
    not_mem_toDigits hmark (by decide) port
  rw [authorityText]
  cases authority.port with
  | none => simp [hslash, hinfo, hhostText]
  | some port => simp [hslash, hinfo, hhostText, hcolon, hport]

theorem not_mem_authorityOf {scheme : String} {bare : Bool} {cs rest : List Char}
    {authority : Authority} (h : authorityOf scheme bare cs = .ok (authority, rest)) :
    mark ∉ (authorityText authority).toList := by
  unfold authorityOf at h
  split at h
  · obtain ⟨⟨host, port, left⟩, hread, hthen⟩ := exists_of_bind_eq_ok h
    obtain ⟨rfl, rfl⟩ := Prod.mk.inj (Except.ok.inj hthen)
    apply not_mem_authorityText hmark
    · exact List.not_mem_nil
    · intro word hword
      cases hword
    · rintro host rfl
      exact (isRead_hostAndPort hread).not_mem hmark
  · next info afterAt hcut =>
      split at h
      · cases h
      · obtain ⟨⟨host, port, left⟩, hread, hthen⟩ := exists_of_bind_eq_ok h
        obtain ⟨huser, hword⟩ := not_mem_credentials hmark info
        cases hinfo : credentials info with
        | mk username password =>
            rw [hinfo] at hthen huser hword
            dsimp only at hthen
            split at hthen
            · cases hthen
            · obtain ⟨rfl, rfl⟩ := Prod.mk.inj (Except.ok.inj hthen)
              apply not_mem_authorityText hmark huser hword
              rintro host rfl
              exact (isRead_hostAndPort hread).not_mem hmark

end Url

end Marks

/-! ## URLs that have been read -/

namespace Url

/-- No mark stands before the query of a URL, and no number sign in it. -/
structure Delimited (url : Url) : Prop where
  before : ∀ mark, IsMark mark → mark ∉ url.textBeforeQuery.toList
  query : ∀ query, url.query = some query → '#' ∉ query.toList

theorem not_mem_tailOf {special : Bool} {cs : List Char} {query : String}
    (h : (tailOf special cs).1 = some query) : '#' ∉ query.toList := by
  unfold tailOf at h
  extract_lets coded fragment at h
  have hcoded (part : List Char) : '#' ∉ (coded part).toList := by
    apply not_mem_encodeText (Or.inr rfl)
    cases special with
    | false => exact Or.inl (by decide)
    | true => exact Or.inl (by decide)
  split at h
  · split at h
    · obtain rfl := Option.some.inj h
      exact hcoded _
    · obtain rfl := Option.some.inj h
      exact hcoded _
  · cases h
  · cases h

theorem not_mem_cutTail {mark : Char} (hmark : IsMark mark) {cs path tail : List Char}
    (h : cutTail cs = (path, tail)) : mark ∉ path := by
  rw [cutTail, List.span_eq_takeWhile_dropWhile] at h
  obtain ⟨rfl, -⟩ := Prod.mk.inj h
  intro hmem
  have hstop : ¬ (mark ≠ '?' && mark ≠ '#') = true := hmark.holds (by decide) (by decide)
  exact hstop (List.mem_takeWhile_imp (p := fun c => c ≠ '?' && c ≠ '#') hmem)

/-- A URL is delimited when its parts before the query are. -/
theorem delimited_assemble {scheme : String} {authority : Option Authority} {path : UrlPath}
    (hscheme : ∀ mark, IsMark mark → mark ∉ scheme.toList)
    (hauthority : ∀ part, authority = some part →
      ∀ mark, IsMark mark → mark ∉ (authorityText part).toList)
    (hpath : ∀ mark, IsMark mark → mark ∉ path.text.toList) (tail : List Char) :
    Delimited (assemble scheme authority path tail) := by
  refine ⟨?_, fun query hquery => not_mem_tailOf hquery⟩
  intro mark hmark
  have hcolon : mark ≠ ':' := hmark.ne (by decide)
  have hslash : mark ≠ '/' := hmark.ne (by decide)
  have hdot : mark ≠ '.' := hmark.ne (by decide)
  have hbefore : mark ∉ (assemble scheme authority path tail).beforePath.toList := by
    rw [beforePath]
    cases hpart : authority with
    | some part => exact hauthority part hpart mark hmark
    | none =>
        show mark ∉ (if startsWith "//" path.text then "/." else "").toList
        split
        · simp [hslash, hdot]
        · exact List.not_mem_nil
  simp only [textBeforeQuery, String.toList_append, List.mem_append, not_or]
  exact ⟨⟨⟨hscheme mark hmark, by simpa using hcolon⟩, hbefore⟩, hpath mark hmark⟩

section Parsing

variable {scheme : String} {cs : List Char} {url : Url}

theorem delimited_parseAfterSlashes (hscheme : ∀ mark, IsMark mark → mark ∉ scheme.toList)
    (h : parseAfterSlashes scheme cs = .ok url) : Delimited url := by
  unfold parseAfterSlashes at h
  extract_lets special at h
  split at h
  obtain ⟨⟨authority, left⟩, hauthority, hthen⟩ := exists_of_bind_eq_ok h
  obtain rfl := Except.ok.inj hthen
  apply delimited_assemble hscheme
  · rintro part hpart mark hmark
    obtain rfl := Option.some.inj hpart
    exact not_mem_authorityOf hmark hauthority
  · intro mark hmark
    split
    · exact UrlPath.not_mem_parseSpecial hmark _
    · exact UrlPath.not_mem_parsePlain hmark _

theorem delimited_parsePlain (hscheme : ∀ mark, IsMark mark → mark ∉ scheme.toList)
    (h : parsePlain scheme cs = .ok url) : Delimited url := by
  unfold parsePlain at h
  split at h
  · exact delimited_parseAfterSlashes hscheme h
  · split at h
    next path tail hcut =>
    split at h
    · obtain rfl := Except.ok.inj h
      apply delimited_assemble hscheme
      · rintro part hpart
        cases hpart
      · intro mark hmark
        exact UrlPath.not_mem_parsePlain hmark _
    · obtain rfl := Except.ok.inj h
      apply delimited_assemble hscheme
      · rintro part hpart
        cases hpart
      · intro mark hmark
        exact not_mem_encodeText hmark (Or.inr (not_mem_cutTail hmark hcut))

/-- No mark stands in the host, if there is one. -/
def UnmarkedHost (host : Option Host) : Prop :=
  ∀ part, host = some part → ∀ mark, IsMark mark → mark ∉ part.text.toList

theorem unmarked_none : UnmarkedHost none := by
  intro part hpart
  cases hpart

/-- A `file` URL is delimited, whether or not a drive letter takes its host away. -/
theorem delimited_assembleFile {host : Option Host}
    (hhost : UnmarkedHost host) (path tail : List Char) :
    Delimited (assembleFile host (UrlPath.fileSegments path) tail) := by
  unfold assembleFile
  extract_lets kept
  have hkept (part : Host) (hpart : kept = some part) : host = some part := by
    simp only [kept] at hpart
    split at hpart
    · cases hpart
    · exact hpart
  apply delimited_assemble
  · intro mark hmark
    exact hmark.holds (by decide) (by decide)
  · intro part hpart mark hmark
    obtain rfl := Option.some.inj hpart
    apply not_mem_authorityText hmark
    · exact List.not_mem_nil
    · intro word hword
      cases hword
    · intro found hfound
      exact hhost found (hkept found hfound) mark hmark
  · intro mark hmark
    exact UrlPath.not_mem_ofFileSegments hmark path

theorem delimited_parseFileHost {path tail : List Char}
    (h : parseFileHost path tail = .ok url) : Delimited url := by
  unfold parseFileHost at h
  split at h
  split at h
  · obtain rfl := Except.ok.inj h
    exact delimited_assembleFile unmarked_none _ _
  · obtain ⟨read, hread, hthen⟩ := exists_of_bind_eq_ok h
    cases read with
    | none =>
        obtain rfl := Except.ok.inj hthen
        exact delimited_assembleFile unmarked_none _ _
    | some host =>
        obtain rfl := Except.ok.inj hthen
        apply delimited_assembleFile
        rintro part hpart mark hmark
        obtain rfl := Option.some.inj hpart
        exact (isRead_fileHost hread).not_mem hmark

theorem delimited_parseFile (h : parseFile cs = .ok url) : Delimited url := by
  unfold parseFile at h
  split at h
  split at h
  · split at h
    · exact delimited_parseFileHost h
    · obtain rfl := Except.ok.inj h
      exact delimited_assembleFile unmarked_none _ _
  · obtain rfl := Except.ok.inj h
    exact delimited_assembleFile unmarked_none _ _

end Parsing

/-- A URL that has been read is delimited. -/
theorem delimited_of_parse {text : String} {url : Url} (h : parse text = .ok url) :
    Delimited url := by
  rw [parse] at h
  split at h
  · cases h
  · next scheme rest hcut =>
      have hscheme : ∀ mark, IsMark mark → mark ∉ scheme.toList :=
        fun mark hmark => not_mem_scheme hmark hcut
      rw [parseScheme] at h
      split at h
      · exact delimited_parseFile h
      · split at h
        · exact delimited_parseAfterSlashes hscheme h
        · exact delimited_parsePlain hscheme h

/-- Pairs at the end of its query leave a URL delimited. -/
theorem delimited_appendPairs {url : Url} (h : Delimited url) (pairs : List (String × String)) :
    Delimited (url.appendPairs pairs) := by
  refine ⟨h.before, ?_⟩
  intro query hquery
  obtain rfl := Option.some.inj hquery
  apply not_mem_extendQuery
  cases hown : url.query with
  | none => exact List.not_mem_nil
  | some own => exact h.query own hown

/-! ## The query of a written URL -/

/-- The query in a written URL: what stands between its first question mark and the number
sign after it. -/
def queryIn? (location : String) : Option String :=
  (cut? '?' (String.ofList (location.toList.takeWhile (· ≠ '#')))).map (·.2)

/-- The query of a written URL is the query of the URL. -/
theorem queryIn?_text {url : Url} (h : Delimited url) : queryIn? url.text = url.query := by
  have hbefore : '#' ∉ url.textBeforeQuery.toList := h.before '#' (Or.inr rfl)
  have hquestion : '?' ∉ url.textBeforeQuery.toList := h.before '?' (Or.inl rfl)
  have hfragment : (url.fragment.elim "" ("#" ++ ·)).toList.takeWhile (· ≠ '#') = [] := by
    cases url.fragment with
    | none => rfl
    | some fragment => simp
  have hkept : url.text.toList.takeWhile (· ≠ '#') =
      url.textBeforeQuery.toList ++ (url.query.elim "" ("?" ++ ·)).toList := by
    rw [text, String.toList_append, List.takeWhile_append_of_pos, hfragment, List.append_nil,
      String.toList_append]
    intro c hc
    rw [decide_eq_true_eq]
    rintro rfl
    rcases List.mem_append.mp (String.toList_append ▸ hc) with hin | hin
    · exact hbefore hin
    · cases hquery : url.query with
      | none =>
          rw [hquery] at hin
          cases hin
      | some query =>
          rw [hquery] at hin
          simp [h.query query hquery] at hin
  rw [queryIn?, hkept]
  cases hquery : url.query with
  | none =>
      have hcut : splitFirst? '?' url.textBeforeQuery.toList = none :=
        splitFirst?_of_not_mem hquestion
      simp [cut?, hcut]
  | some query =>
      have hcut : cut? '?' (String.ofList (url.textBeforeQuery.toList ++ ("?" ++ query).toList)) =
          some (url.textBeforeQuery, query) := by
        apply cut?_eq_some_iff.mpr
        simp [hquestion]
      rw [Option.elim_some, hcut, Option.map_some]

end Url

end SignOn
