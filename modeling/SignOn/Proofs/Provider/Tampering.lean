import SignOn.Proofs.Provider.SignedFields

/-!
# Assertions that are tampered with

The parameters of an assertion that have a say in its claims are its mode, its error, its
identity, the aliases it declares, the list of signed fields and the fields on that list
(`Counts`). With a list of signed fields and one alias for each extension, all others may be
added, removed or altered: the assertion reads as before (`parse_eq_of_agree`).
-/

set_option autoImplicit false

namespace SignOn.Assertion

open SignOn.Text

/-! ## Declared aliases -/

/-- The aliases an assertion declares for `ns`. -/
def aliases (params : Params) (ns : String) : List String :=
  params.entries.filterMap (declared? ns)

/-- An entry declares an alias by its name and the namespace as its value. -/
theorem declared?_eq_some_iff {ns name : String} {entry : String × String} :
    declared? ns entry = some name ↔ entry = (aliasHead ++ name, ns) := by
  obtain ⟨key, value⟩ := entry
  rw [declared?, Prod.mk.injEq]
  split
  · next hvalue =>
      rw [Option.map_eq_some_iff]
      constructor
      · rintro ⟨rest, hrest, rfl⟩
        refine ⟨?_, hvalue⟩
        apply String.toList_injective
        rw [String.toList_append, String.toList_ofList]
        exact dropHead?_eq_some_iff.mp hrest
      · rintro ⟨rfl, -⟩
        refine ⟨name.toList, ?_, String.ofList_toList⟩
        exact dropHead?_eq_some_iff.mpr String.toList_append
  · next hvalue =>
      constructor
      · intro h
        cases h
      · rintro ⟨-, h⟩
        exact absurd h hvalue

/-- The declared aliases are the names under which the namespace is given. -/
theorem mem_aliases_iff {params : Params} {ns name : String} :
    name ∈ aliases params ns ↔ params.get? (aliasHead ++ name) = some ns := by
  rw [Table.get?_eq_some_iff, aliases, List.mem_filterMap]
  constructor
  · rintro ⟨entry, hentry, hname⟩
    rwa [declared?_eq_some_iff.mp hname] at hentry
  · intro h
    exact ⟨_, h, declared?_eq_some_iff.mpr rfl⟩

/-- Of the declared aliases the first one counts. -/
theorem aliasOf_eq_head? (params : Params) (ns usual : String) :
    aliasOf params ns usual = (aliases params ns).head?.getD usual := by
  rw [aliasOf, aliases, List.head?_filterMap]

/-! ## Parameters that count -/

/-- The parameters with a say in the claims of an assertion. -/
inductive Counts (params : Params) : String → Prop where
  | mode : Counts params "openid.mode"
  | reason : Counts params "openid.error"
  | claimed : Counts params "openid.claimed_id"
  | identity : Counts params "openid.identity"
  | list : Counts params "openid.signed"
  | declaration (name : String) : Counts params (aliasHead ++ name)
  | signed {field : String} (h : IsSigned params field) : Counts params ("openid." ++ field)

/-- The second assertion has the parameters that count in the first as they are there. -/
def Agree (first second : Params) : Prop :=
  ∀ name, Counts first name → second.get? name = first.get? name

/-- A parameter does not count when it has another name than those that do. -/
theorem not_counts {params : Params} {name : String}
    (hfixed : name ∉ ["openid.mode", "openid.error", "openid.claimed_id", "openid.identity",
      "openid.signed"])
    (hdeclared : startsWith aliasHead name = false)
    (hsigned : ∀ field ∈ (signedFields? params).getD [], "openid." ++ field ≠ name) :
    ¬ Counts params name := by
  intro h
  cases h with
  | mode => exact hfixed (by decide)
  | reason => exact hfixed (by decide)
  | claimed => exact hfixed (by decide)
  | identity => exact hfixed (by decide)
  | list => exact hfixed (by decide)
  | declaration rest =>
      have hhead : startsWith aliasHead (aliasHead ++ rest) = true := by
        rw [startsWith_iff, String.toList_append]
        exact List.prefix_append ..
      rw [hhead] at hdeclared
      cases hdeclared
  | signed h =>
      obtain ⟨list, hlist, hfield⟩ := h
      refine hsigned _ ?_ rfl
      rw [signedFields?, hlist]
      exact hfield

section Agreement

variable {first second : Params}

theorem Agree.refl (params : Params) : Agree params params := fun _ _ => rfl

/-- A parameter that does not count may be added or altered. -/
theorem Agree.put (h : Agree first second) {name : String} (hname : ¬ Counts first name)
    (value : String) : Agree first (second.put name value) := by
  intro other hother
  rw [Table.get?_put_of_ne, h other hother]
  rintro rfl
  exact hname hother

/-- A parameter that does not count may be removed. -/
theorem Agree.erase (h : Agree first second) {name : String} (hname : ¬ Counts first name) :
    Agree first (second.erase name) := by
  intro other hother
  rw [Table.get?_erase_of_ne, h other hother]
  rintro rfl
  exact hname hother

/-! ## What is read -/

theorem checkMode_eq_of_agree (h : Agree first second) : checkMode second = checkMode first := by
  rw [checkMode, checkMode, h _ .mode, h _ .reason]

theorem identity?_eq_of_agree (h : Agree first second) : identity? second = identity? first := by
  rw [identity?, identity?, h _ .claimed, h _ .identity]

/-- The same aliases are declared. -/
theorem mem_aliases_of_agree (h : Agree first second) (ns name : String) :
    name ∈ aliases second ns ↔ name ∈ aliases first ns := by
  rw [mem_aliases_iff, mem_aliases_iff, h _ (.declaration name)]

/-- An alias that is declared once is the alias of both. -/
theorem aliasOf_eq_of_agree (h : Agree first second) {ns : String} (usual : String)
    (honce : (aliases first ns).length ≤ 1) :
    aliasOf second ns usual = aliasOf first ns usual := by
  have hmem := mem_aliases_of_agree h ns
  rw [aliasOf_eq_head?, aliasOf_eq_head?]
  cases hone : aliases first ns with
  | nil =>
      cases htwo : aliases second ns with
      | nil => rfl
      | cons name rest =>
          rw [hone, htwo] at hmem
          exact absurd ((hmem name).mp (List.mem_cons_self ..)) List.not_mem_nil
  | cons name rest =>
      rw [hone] at hmem honce
      -- whichever alias comes first there is the only one that is declared here
      obtain rfl : rest = [] := List.eq_nil_of_length_eq_zero (by simpa using honce)
      cases htwo : aliases second ns with
      | nil =>
          rw [htwo] at hmem
          exact absurd ((hmem name).mpr (List.mem_cons_self ..)) List.not_mem_nil
      | cons other others =>
          rw [htwo] at hmem
          have hsame := List.mem_singleton.mp ((hmem other).mp (List.mem_cons_self ..))
          rw [hsame, List.head?_cons, List.head?_cons]

/-- The same fields are believed. -/
theorem isBelieved_eq_of_agree (h : Agree first second) (field : String) :
    isBelieved second field = isBelieved first field := by
  rw [isBelieved, isBelieved, signedFields?, signedFields?, h _ .list]

/-- A field of an extension is looked up only where it is signed. -/
theorem extensionValue?_eq_of_agree (h : Agree first second)
    (hlist : first.get? "openid.signed" ≠ none) (name field : String) :
    extensionValue? second name field = extensionValue? first name field := by
  obtain ⟨list, hlist⟩ := Option.ne_none_iff_exists'.mp hlist
  rw [extensionValue?, extensionValue?, isBelieved_eq_of_agree h]
  split
  · next hbelieved => rw [h _ (.signed (isSigned_of_isBelieved hlist hbelieved))]
  · rfl

end Agreement

/-- Two assertions with one list of signed fields read the same when they agree on mode,
error, identity and declared aliases, one at most for each extension, and on the fields that
the list names. No other parameter, added, removed or altered, has a say in the claims or in
the error. -/
theorem parse_eq_of_agree {first second : Params} (h : Agree first second)
    (hlist : first.get? "openid.signed" ≠ none)
    (hregistration : (aliases first registrationNamespace).length ≤ 1)
    (hteams : (aliases first teamsNamespace).length ≤ 1) : parse second = parse first := by
  have hclaimed : registration second = registration first :=
    aliasOf_eq_of_agree h registrationAlias hregistration
  have hgrouped : teams second = teams first := aliasOf_eq_of_agree h teamsAlias hteams
  have hclaims (identity : String) : claimsOf second identity = claimsOf first identity := by
    simp only [claimsOf, hclaimed, hgrouped, extensionValue?_eq_of_agree h hlist]
  rw [parse, parse, checkMode_eq_of_agree h, identity?_eq_of_agree h]
  simp only [hclaims]

/-! ### A membership that nobody vouches for -/

/-- An assertion whose provider signs the e-mail and names both extensions its own way. -/
def vouched : Params :=
  Table.ofList
    [("openid.mode", "id_res"), ("openid.claimed_id", "http://[::1]/alice"),
      ("openid.ns.ax", registrationNamespace), ("openid.ns.groups", teamsNamespace),
      ("openid.ax.email", "alice@example.org"), ("openid.groups.is_member", "packager"),
      ("openid.sreg.nickname", "alice"), ("openid.signed", "claimed_id, ax.email")]

/-- The assertion on its way through the browser of somebody who wants more. -/
def tampered : Params :=
  ((vouched.put "openid.groups.is_member" "packager,root").put "openid.ax.timezone" "UTC").erase
    "openid.sreg.nickname"

/-- The memberships and the timezone that nobody vouches for change nothing. -/
theorem parse_tampered :
    Agree vouched tampered ∧ vouched.get? "openid.signed" ≠ none ∧
      (aliases vouched registrationNamespace).length ≤ 1 ∧
      (aliases vouched teamsNamespace).length ≤ 1 ∧ parse tampered = parse vouched ∧
      parse vouched = .ok ⟨"http://[::1]/alice", some "alice@example.org", none, none⟩ := by
  have hteams : ¬ Counts vouched "openid.groups.is_member" :=
    not_counts (by decide) (by decide) (by decide +kernel)
  have htimezone : ¬ Counts vouched "openid.ax.timezone" :=
    not_counts (by decide) (by decide) (by decide +kernel)
  have hnickname : ¬ Counts vouched "openid.sreg.nickname" :=
    not_counts (by decide) (by decide) (by decide +kernel)
  have hagree : Agree vouched tampered :=
    (((Agree.refl vouched).put hteams _).put htimezone _).erase hnickname
  have hlist : vouched.get? "openid.signed" ≠ none := by decide +kernel
  have hregistration : (aliases vouched registrationNamespace).length ≤ 1 := by decide +kernel
  have hgroups : (aliases vouched teamsNamespace).length ≤ 1 := by decide +kernel
  exact ⟨hagree, hlist, hregistration, hgroups,
    parse_eq_of_agree hagree hlist hregistration hgroups, by decide +kernel⟩

end SignOn.Assertion
