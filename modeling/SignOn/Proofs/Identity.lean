import Mathlib.Data.List.TakeDrop
import SignOn.Identity
import SignOn.Proofs.Url.Host
import SignOn.Proofs.Username

/-!
# Which identities have short names

An identity has a short name only at the provider's own host, where the path names it, and at
the subdomains of that host, which name it themselves (`NamedAs`). Every other identity is its
own name. One at a foreign host is a URL, and no URL is a username, so that it shares its name
with nobody who logs in by a ticket (`username_eq_iff`).
-/

set_option autoImplicit false

namespace SignOn

open SignOn.Text

/-! ## URLs are no usernames -/

namespace Url

theorem mem_of_mem_cleaned {cs : List Char} {c : Char} (h : c ∈ cleaned cs) : c ∈ cs := by
  have hinner := List.mem_reverse.mp (List.mem_filter.mp h).1
  have hstart := List.mem_reverse.mp ((List.dropWhile_suffix _).subset hinner)
  exact (List.dropWhile_suffix _).subset hstart

/-- A text that is read as a URL has a colon in it, after its scheme. -/
theorem colon_mem_of_parse {text : String} {url : Url} (h : parse text = .ok url) :
    ':' ∈ text.toList := by
  rw [parse] at h
  split at h
  · cases h
  · next scheme rest hcut =>
      apply mem_of_mem_cleaned
      unfold cutScheme? at hcut
      split at hcut
      · next hspan =>
          rw [List.span_eq_takeWhile_dropWhile] at hspan
          apply (List.dropWhile_suffix isSchemeChar).subset
          rw [(Prod.mk.inj hspan).2]
          exact List.mem_cons_self ..
      · cases hcut

theorem isValid_of_parse {text : String} {url : Url} (h : parse text = .ok url) :
    Username.isValid text = false :=
  Username.isValid_eq_false (colon_mem_of_parse h) (by decide)

end Url

namespace Identity

/-! ## Where an identity lives -/

/-- The identity is a URL at the host `host`. -/
structure LivesAt (identity : String) (url : Url) (host : String) : Prop where
  parse_eq : Url.parse identity = .ok url
  hostText?_eq : url.hostText? = some host
  ne_empty : host ≠ ""

/-- The identity lives neither at the provider's host nor at a subdomain of it. -/
def IsForeign (identity provider : String) : Prop :=
  ∃ url host, LivesAt identity url host ∧ host ≠ lower provider ∧
    ∀ name, name ≠ "" → host ≠ name ++ "." ++ lower provider

/-- The name of an identity at a provider, if there is one. -/
inductive NamedAs (identity : String) : Option String → String → Prop where
  /-- The identity is no URL with a host. -/
  | hostless {provider : Option String} (h : ∀ url host, ¬ LivesAt identity url host) :
      NamedAs identity provider identity
  /-- No provider is known. -/
  | unasked : NamedAs identity none identity
  /-- At the provider's host the first segment of the path counts that is not empty. -/
  | path {url : Url} {host provider name : String} {empties rest : List String}
      (h : LivesAt identity url host) (hhost : host = lower provider)
      (hpath : url.segments? = some (empties ++ name :: rest))
      (hempties : ∀ part ∈ empties, part = "") (hname : name ≠ "") :
      NamedAs identity (some provider) name
  /-- At the provider's host the path may name nobody. -/
  | root {url : Url} {host provider : String} (h : LivesAt identity url host)
      (hhost : host = lower provider)
      (hpath : ∀ parts, url.segments? = some parts → ∀ part ∈ parts, part = "") :
      NamedAs identity (some provider) identity
  /-- At a subdomain of the provider's host the labels before that host count. -/
  | subdomain {url : Url} {host provider name : String} (h : LivesAt identity url host)
      (hhost : host = name ++ "." ++ lower provider) (hname : name ≠ "") :
      NamedAs identity (some provider) name
  /-- Elsewhere the provider has no say. -/
  | foreign {provider : String} (h : IsForeign identity provider) :
      NamedAs identity (some provider) identity

/-! ## Parts of hosts and paths -/

/-- The labels before the provider's host. -/
theorem leadingLabels?_eq_some_iff {provider host name : String} :
    leadingLabels? provider host = some name ↔ host = name ++ "." ++ provider ∧ name ≠ "" := by
  have hchars : host = name ++ "." ++ provider ↔
      host.toList = (name.toList ++ ['.']) ++ provider.toList := by
    rw [← String.toList_inj, String.toList_append, String.toList_append]
    exact Iff.rfl
  rw [hchars, leadingLabels?, Option.bind_eq_some_iff]
  constructor
  · rintro ⟨labels, hlabels, h⟩
    obtain ⟨before, hbefore, hcut⟩ := Option.bind_eq_some_iff.mp hlabels
    rw [dropTail?_eq_some_iff] at hbefore hcut
    split at h
    · cases h
    · next hne =>
        obtain rfl := Option.some.inj h
        rw [String.toList_ofList, hbefore, hcut]
        exact ⟨rfl, fun hempty => hne (String.ofList_injective hempty)⟩
  · rintro ⟨hhost, hne⟩
    refine ⟨name.toList, ?_, ?_⟩
    · rw [dropTail?_eq_some_iff.mpr hhost, Option.bind_some]
      exact dropTail?_eq_some_iff.mpr rfl
    · rw [if_neg, String.ofList_toList]
      intro hempty
      exact hne (String.toList_injective hempty)

/-- The first segment that is not empty. -/
theorem firstSegment?_eq_some_iff {url : Url} {name : String} :
    firstSegment? url = some name ↔ ∃ empties rest,
      url.segments? = some (empties ++ name :: rest) ∧ (∀ part ∈ empties, part = "") ∧
        name ≠ "" := by
  rw [firstSegment?, List.find?_eq_some_iff_append]
  constructor
  · rintro ⟨hne, empties, rest, hsegments, hempties⟩
    refine ⟨empties, rest, ?_, ?_, by simpa using hne⟩
    · cases hparts : url.segments? with
      | none =>
          rw [hparts] at hsegments
          simp at hsegments
      | some parts => rw [← hsegments, hparts, Option.getD_some]
    · intro part hpart
      simpa using hempties part hpart
  · rintro ⟨empties, rest, hsegments, hempties, hne⟩
    refine ⟨by simpa using hne, empties, rest, by rw [hsegments, Option.getD_some], ?_⟩
    intro part hpart
    simpa using hempties part hpart

/-- All segments are empty. -/
theorem firstSegment?_eq_none_iff {url : Url} : firstSegment? url = none ↔
    ∀ parts, url.segments? = some parts → ∀ part ∈ parts, part = "" := by
  rw [firstSegment?, List.find?_eq_none]
  constructor
  · intro h parts hparts part hpart
    rw [hparts, Option.getD_some] at h
    simpa using h part hpart
  · intro h part hpart
    cases hparts : url.segments? with
    | none =>
        rw [hparts] at hpart
        cases hpart
    | some parts =>
        rw [hparts, Option.getD_some] at hpart
        simpa using h parts hparts part hpart

/-! ## Names -/

section Names

variable {identity : String}

/-- An identity that lives nowhere is its own name. -/
theorem username_of_hostless (h : ∀ url host, ¬ LivesAt identity url host)
    (provider : Option String) : username identity provider = identity := by
  rw [username, read]
  cases hparse : Url.parse identity with
  | error fault => rfl
  | ok url =>
      cases hhost : url.host? with
      | none => simp [Except.toOption, Url.hostText?, hhost]
      | some host =>
          -- the host of a URL is not empty
          have hlives : LivesAt identity url host.text :=
            ⟨hparse, by rw [Url.hostText?, hhost, Option.map_some],
              (Url.isRead_of_parse hparse hhost).text_ne_empty⟩
          exact absurd hlives (h url host.text)

/-- An identity at a host has the name that the provider gives it, or its own. -/
theorem username_of_livesAt {url : Url} {host : String} (h : LivesAt identity url host)
    (provider : Option String) : username identity provider =
      (provider.bind fun provider => nameAt? (lower provider) host url).getD identity := by
  have hread : (Url.parse identity).toOption.bind
      (fun url => url.hostText?.map fun host => (url, host)) = some (url, host) := by
    rw [h.parse_eq, Except.toOption, Option.bind_some, h.hostText?_eq, Option.map_some]
  rw [username, read, hread]
  dsimp only
  cases provider.bind fun provider => nameAt? (lower provider) host url with
  | none => rfl
  | some name => rfl

/-- A host is longer than its end. -/
theorem subdomain_ne (name provider : String) : name ++ "." ++ provider ≠ provider := by
  intro h
  have hlength := congrArg (fun text : String => text.toList.length) h
  simp only [String.toList_append, List.length_append, String.reduceToList,
    List.length_singleton] at hlength
  omega

/-- An identity at a foreign host is its own name. -/
theorem username_of_isForeign {provider : String} (h : IsForeign identity provider) :
    username identity (some provider) = identity := by
  obtain ⟨url, host, hlives, hother, hout⟩ := h
  have hlabels : leadingLabels? (lower provider) host = none := by
    rw [Option.eq_none_iff_forall_ne_some]
    intro name hname
    obtain ⟨hhost, hne⟩ := leadingLabels?_eq_some_iff.mp hname
    exact hout name hne hhost
  rw [username_of_livesAt hlives, Option.bind_some, nameAt?, if_neg hother, hlabels]
  rfl

/-- Every identity has the name that is read. -/
theorem namedAs_username (identity : String) (provider : Option String) :
    NamedAs identity provider (username identity provider) := by
  by_cases hhostless : ∀ url host, ¬ LivesAt identity url host
  · rw [username_of_hostless hhostless]
    exact .hostless hhostless
  · push Not at hhostless
    obtain ⟨url, host, hlives⟩ := hhostless
    cases provider with
    | none =>
        rw [username_of_livesAt hlives]
        exact .unasked
    | some provider =>
        by_cases hhost : host = lower provider
        · rw [username_of_livesAt hlives, Option.bind_some, nameAt?, if_pos hhost]
          cases hname : firstSegment? url with
          | none => exact .root hlives hhost (firstSegment?_eq_none_iff.mp hname)
          | some name =>
              obtain ⟨empties, rest, hpath, hempties, hne⟩ := firstSegment?_eq_some_iff.mp hname
              exact .path hlives hhost hpath hempties hne
        · by_cases hbelow : ∃ name, name ≠ "" ∧ host = name ++ "." ++ lower provider
          · obtain ⟨name, hne, hbelow⟩ := hbelow
            rw [username_of_livesAt hlives, Option.bind_some, nameAt?, if_neg hhost,
              leadingLabels?_eq_some_iff.mpr ⟨hbelow, hne⟩]
            exact .subdomain hlives hbelow hne
          · have hforeign : IsForeign identity provider :=
              ⟨url, host, hlives, hhost, fun name hne hname => hbelow ⟨name, hne, hname⟩⟩
            rw [username_of_isForeign hforeign]
            exact .foreign hforeign

/-- An identity has no other name than the one that is read. -/
theorem username_of_namedAs {provider : Option String} {name : String}
    (h : NamedAs identity provider name) : username identity provider = name := by
  cases h with
  | hostless h => exact username_of_hostless h provider
  | unasked =>
      by_cases hhostless : ∀ url host, ¬ LivesAt identity url host
      · exact username_of_hostless hhostless none
      · push Not at hhostless
        obtain ⟨url, host, hlives⟩ := hhostless
        exact username_of_livesAt hlives none
  | path hlives hhost hpath hempties hname =>
      have hfirst := firstSegment?_eq_some_iff.mpr ⟨_, _, hpath, hempties, hname⟩
      rw [username_of_livesAt hlives, Option.bind_some, nameAt?, if_pos hhost, hfirst,
        Option.getD_some]
  | root hlives hhost hpath =>
      rw [username_of_livesAt hlives, Option.bind_some, nameAt?, if_pos hhost,
        firstSegment?_eq_none_iff.mpr hpath, Option.getD_none]
  | subdomain hlives hhost hname =>
      have hbelow := leadingLabels?_eq_some_iff.mpr ⟨hhost, hname⟩
      rw [username_of_livesAt hlives, Option.bind_some, nameAt?, hbelow, if_neg, Option.getD_some]
      rw [hhost]
      exact subdomain_ne _ _
  | foreign hforeign => exact username_of_isForeign hforeign

end Names

/-- An identity is named by the rules of `NamedAs`, and has no name besides. At a foreign host
it is its own name, which is no username, and so no principal is read as the same name. -/
theorem username_eq_iff (identity : String) (provider : Option String) :
    (∀ name, username identity provider = name ↔ NamedAs identity provider name) ∧
      ∀ host, provider = some host → IsForeign identity host →
        username identity provider = identity ∧ Username.isValid identity = false ∧
          ∀ principal, Username.ofPrincipal? principal ≠ some (username identity provider) := by
  refine ⟨?_, ?_⟩
  · intro name
    constructor
    · rintro rfl
      exact namedAs_username identity provider
    · exact username_of_namedAs
  · rintro host rfl hforeign
    have hname := username_of_isForeign hforeign
    have hinvalid : Username.isValid identity = false := by
      obtain ⟨url, site, hlives, -, -⟩ := hforeign
      exact Url.isValid_of_parse hlives.parse_eq
    refine ⟨hname, hinvalid, ?_⟩
    intro principal hprincipal
    rw [hname] at hprincipal
    rw [Username.isValid_of_ofPrincipal? hprincipal] at hinvalid
    cases hinvalid

/-! ### Hosts that end like the provider's -/

/-- An identity whose host ends in the text of the provider's without a dot before it. -/
def lookalike : String := "openid://notid.example.org/alice"

/-- The look-alike is foreign and keeps its URL, while a subdomain has a name, whatever the
letters of the provider's host. -/
theorem username_lookalike :
    IsForeign lookalike "ID.Example.org" ∧
      username lookalike (some "ID.Example.org") = lookalike ∧
      Username.isValid lookalike = false ∧
      username "openid://alice.id.example.org" (some "ID.Example.org") = "alice" := by
  have hforeign : IsForeign lookalike "ID.Example.org" := by
    refine ⟨_, "notid.example.org", ⟨rfl, rfl, by decide⟩, by decide, ?_⟩
    intro name hne hhost
    have hlabels : leadingLabels? "id.example.org" "notid.example.org" = some name :=
      leadingLabels?_eq_some_iff.mpr ⟨hhost, hne⟩
    cases hlabels
  obtain ⟨hname, hinvalid, -⟩ :=
    (username_eq_iff lookalike (some "ID.Example.org")).2 "ID.Example.org" rfl hforeign
  have hbelow : NamedAs "openid://alice.id.example.org" (some "ID.Example.org") "alice" :=
    .subdomain ⟨rfl, rfl, by decide⟩ (by decide) (by decide)
  exact ⟨hforeign, hname, hinvalid, ((username_eq_iff _ _).1 _).mpr hbelow⟩

end Identity

end SignOn
