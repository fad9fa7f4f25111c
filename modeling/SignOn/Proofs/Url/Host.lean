import SignOn.Proofs.Url.Marks

/-!
# The host of a URL that has been read

Whatever its scheme, the host of a URL is what one of the two readers of hosts makes of some
text (`Url.isRead_of_parse`). So no mark stands in its written form
(`Host.IsRead.not_mem`), which is not empty (`Host.IsRead.text_ne_empty`).
-/

set_option autoImplicit false

namespace SignOn

open SignOn.Text

/-- Every character has bytes. -/
theorem Text.Utf8.encodeChar_ne_nil (c : Char) : encodeChar c ≠ [] := by
  rw [encodeChar]
  split
  · exact List.cons_ne_nil _ _
  · split
    · exact List.cons_ne_nil _ _
    · split
      · exact List.cons_ne_nil _ _
      · exact List.cons_ne_nil _ _

namespace Host

/-- The host is what a reader of hosts makes of some text. -/
def IsRead (host : Host) : Prop :=
  ∃ cs, parseSpecial cs = .ok host ∨ parseOpaque cs = .ok (some host)

theorem IsRead.not_mem {host : Host} (h : host.IsRead) {mark : Char} (hmark : IsMark mark) :
    mark ∉ host.text.toList := by
  obtain ⟨cs, hspecial | hplain⟩ := h
  · exact not_mem_parseSpecial hmark hspecial
  · exact not_mem_parseOpaque hmark hplain

/-! ## Hosts are not empty -/

/-- The written form of an address is not empty, nor is a name that is not. -/
theorem text_ne_empty {host : Host} (h : ∀ name, host = domain name → name ≠ "") :
    host.text ≠ "" := by
  cases host with
  | domain name => exact h name rfl
  | ipv4 address =>
      intro hempty
      have hchars := congrArg String.toList hempty
      simp [text, ipv4Text, joined] at hchars
  | ipv6 groups =>
      intro hempty
      have hchars := congrArg String.toList hempty
      simp [text] at hchars

theorem text_ne_empty_of_bracketed {inner : List Char} {host : Host}
    (h : bracketed inner = .ok host) : host.text ≠ "" := by
  rw [bracketed] at h
  split at h
  · obtain rfl := Except.ok.inj h
    apply text_ne_empty
    intro name hname
    cases hname
  · cases h

theorem text_ne_empty_of_ofAscii {name : List Char} {host : Host}
    (h : ofAscii name = .ok host) : host.text ≠ "" := by
  rw [ofAscii] at h
  split at h
  · cases h
  · next hname =>
      apply text_ne_empty
      rintro text rfl
      split at h
      · split at h
        · cases Except.ok.inj h
        · cases h
      · obtain rfl := Host.domain.inj (Except.ok.inj h)
        intro hempty
        exact hname (String.ofList_injective hempty)

/-- Percent coding leaves something of every character. -/
theorem encodeText_ne_empty (coded : Char → Bool) {cs : List Char} (h : cs ≠ []) :
    Url.Percent.encodeText coded cs ≠ "" := by
  obtain ⟨c, rest, rfl⟩ := List.exists_cons_of_ne_nil h
  intro hempty
  have hnil : Url.Percent.encode coded (c :: rest) = [] := String.ofList_injective hempty
  rw [Url.Percent.encode, List.flatMap_cons, List.append_eq_nil_iff] at hnil
  have hchar := hnil.1
  split at hchar
  · obtain ⟨byte, bytes, hbytes⟩ := List.exists_cons_of_ne_nil (Utf8.encodeChar_ne_nil c)
    rw [hbytes, List.flatMap_cons, Form.escapeByte] at hchar
    cases hchar
  · cases hchar

/-- A host that has been read is not empty. -/
theorem IsRead.text_ne_empty {host : Host} (h : host.IsRead) : host.text ≠ "" := by
  obtain ⟨cs, hspecial | hplain⟩ := h
  · unfold parseSpecial at hspecial
    split at hspecial
    · exact text_ne_empty_of_bracketed hspecial
    · split at hspecial
      · cases hspecial
      · exact text_ne_empty_of_ofAscii hspecial
  · unfold parseOpaque at hplain
    split at hplain
    · cases hplain
    · obtain ⟨read, hread, hsome⟩ := exists_of_map_eq_ok hplain
      obtain rfl := Option.some.inj hsome
      exact text_ne_empty_of_bracketed hread
    · next hne _ =>
        split at hplain
        · cases hplain
        · obtain rfl := Option.some.inj (Except.ok.inj hplain)
          exact encodeText_ne_empty _ hne

end Host

/-! ## Where the host of a URL comes from -/

namespace Url

section Parsing

variable {scheme : String} {cs rest : List Char} {url : Url} {host : Host}

/-- The host before a port is read by itself; the port leaves it as it is. -/
theorem isRead_hostAndPort {port : Option Nat}
    (h : hostAndPort scheme cs = .ok (some host, port, rest)) : host.IsRead := by
  unfold hostAndPort at h
  split at h
  extract_lets withPort at h
  have hsame (read : Option Host) (hthen : withPort read = .ok (some host, port, rest)) :
      read = some host := by
    simp only [withPort] at hthen
    split at hthen
    · exact congrArg Prod.fst (Except.ok.inj hthen)
    · split at hthen
      · cases hthen
      · split at hthen
        · cases hthen
        · obtain ⟨_, -, hend⟩ := exists_of_bind_eq_ok hthen
          exact congrArg Prod.fst (Except.ok.inj hend)
  split at h
  · split at h
    · cases h
    · obtain ⟨read, hread, hthen⟩ := exists_of_bind_eq_ok h
      obtain ⟨special, hspecial, rfl⟩ := exists_of_map_eq_ok hread
      obtain rfl := Option.some.inj (hsame _ hthen)
      exact ⟨_, Or.inl hspecial⟩
  · obtain ⟨read, hread, hthen⟩ := exists_of_bind_eq_ok h
    obtain rfl := hsame read hthen
    exact ⟨_, Or.inr hread⟩

theorem isRead_authorityOf {bare : Bool} {authority : Authority}
    (h : authorityOf scheme bare cs = .ok (authority, rest)) (hhost : authority.host = some host) :
    host.IsRead := by
  unfold authorityOf at h
  split at h
  · obtain ⟨⟨read, port, left⟩, hread, hthen⟩ := exists_of_bind_eq_ok h
    obtain ⟨rfl, rfl⟩ := Prod.mk.inj (Except.ok.inj hthen)
    obtain rfl : read = some host := hhost
    exact isRead_hostAndPort hread
  · split at h
    · cases h
    · obtain ⟨⟨read, port, left⟩, hread, hthen⟩ := exists_of_bind_eq_ok h
      dsimp only at hthen
      split at hthen
      · cases hthen
      · obtain ⟨rfl, rfl⟩ := Prod.mk.inj (Except.ok.inj hthen)
        obtain rfl : read = some host := hhost
        exact isRead_hostAndPort hread

theorem isRead_fileHost (h : fileHost cs = .ok (some host)) : host.IsRead := by
  rw [fileHost] at h
  split at h
  · cases h
  · obtain ⟨special, hspecial, hsome⟩ := exists_of_map_eq_ok h
    split at hsome
    · cases hsome
    · obtain rfl := Option.some.inj hsome
      exact ⟨_, Or.inl hspecial⟩

theorem isRead_parseAfterSlashes (h : parseAfterSlashes scheme cs = .ok url)
    (hhost : url.host? = some host) : host.IsRead := by
  unfold parseAfterSlashes at h
  extract_lets special at h
  split at h
  obtain ⟨⟨authority, left⟩, hauthority, hthen⟩ := exists_of_bind_eq_ok h
  obtain rfl := Except.ok.inj hthen
  exact isRead_authorityOf hauthority hhost

theorem isRead_parsePlain (h : parsePlain scheme cs = .ok url) (hhost : url.host? = some host) :
    host.IsRead := by
  unfold parsePlain at h
  split at h
  · exact isRead_parseAfterSlashes h hhost
  -- without two slashes there is no authority
  · split at h
    split at h
    · obtain rfl := Except.ok.inj h
      cases hhost
    · obtain rfl := Except.ok.inj h
      cases hhost

/-- A `file` URL keeps the host it is given or loses it to a drive letter. -/
theorem host?_assembleFile {given : Option Host} {parts : List (List Char)} {tail : List Char}
    (h : (assembleFile given parts tail).host? = some host) : given = some host := by
  replace h : (if UrlPath.startsWithDrive parts then none else given) = some host := h
  split at h
  · cases h
  · exact h

theorem isRead_parseFile (h : parseFile cs = .ok url) (hhost : url.host? = some host) :
    host.IsRead := by
  unfold parseFile at h
  split at h
  split at h
  · split at h
    · unfold parseFileHost at h
      split at h
      split at h
      · obtain rfl := Except.ok.inj h
        cases host?_assembleFile hhost
      · obtain ⟨read, hread, hthen⟩ := exists_of_bind_eq_ok h
        cases read with
        | none =>
            obtain rfl := Except.ok.inj hthen
            cases host?_assembleFile hhost
        | some found =>
            obtain rfl := Except.ok.inj hthen
            obtain rfl := Option.some.inj (host?_assembleFile hhost)
            exact isRead_fileHost hread
    · obtain rfl := Except.ok.inj h
      cases host?_assembleFile hhost
  · obtain rfl := Except.ok.inj h
    cases host?_assembleFile hhost

end Parsing

/-- The host of a URL comes from a reader of hosts. -/
theorem isRead_of_parse {text : String} {url : Url} {host : Host} (h : parse text = .ok url)
    (hhost : url.host? = some host) : host.IsRead := by
  rw [parse] at h
  split at h
  · cases h
  · rw [parseScheme] at h
    split at h
    · exact isRead_parseFile h hhost
    · split at h
      · exact isRead_parseAfterSlashes h hhost
      · exact isRead_parsePlain h hhost

end Url

end SignOn
