import SignOn.Proofs.Directory.GroupNames
import SignOn.Proofs.Provider.Tampering

/-!
# The order in which entries come

Parameters of an assertion and attributes of an entry are held in tables that have no order
of their own. A value that is looked up by its name does not depend on the order, but two
readings take the first of several entries: the alias of an extension, and an attribute whose
name counts without its letter case. What is read is the same in every order exactly when all
entries that could come first read the same (`reading_order_iff`).
-/

set_option autoImplicit false

namespace SignOn

namespace Assertion

/-! ## Parameters of an assertion -/

/-- Whichever of the aliases declared for an extension counts, its claims are the same. -/
structure OneReading (params : Params) : Prop where
  email : ∀ first ∈ aliases params registrationNamespace,
    ∀ second ∈ aliases params registrationNamespace,
      extensionValue? params first "email" = extensionValue? params second "email"
  timezone : ∀ first ∈ aliases params registrationNamespace,
    ∀ second ∈ aliases params registrationNamespace,
      extensionValue? params first "timezone" = extensionValue? params second "timezone"
  teams : ∀ first ∈ aliases params teamsNamespace, ∀ second ∈ aliases params teamsNamespace,
    (extensionValue? params first "is_member").map teamNames =
      (extensionValue? params second "is_member").map teamNames

section Reordering

variable {params other : Params}

/-- Reordered parameters agree on everything that counts. -/
theorem agree_of_perm (h : other.entries.Perm params.entries) : Agree params other :=
  fun name _ => Table.get?_eq_of_perm h name

/-- A field of an extension does not depend on the order. -/
theorem extensionValue?_eq_of_perm (h : other.entries.Perm params.entries) (name field : String) :
    extensionValue? other name field = extensionValue? params name field := by
  rw [extensionValue?, extensionValue?, isBelieved_eq_of_agree (agree_of_perm h),
    Table.get?_eq_of_perm h]

/-- The alias of an extension is one of those declared for it, if there are any. -/
theorem aliasOf_mem_or (params : Params) (ns usual : String) :
    aliasOf params ns usual ∈ aliases params ns ∨
      (aliases params ns = [] ∧ aliasOf params ns usual = usual) := by
  rw [aliasOf_eq_head?]
  cases aliases params ns with
  | nil => exact Or.inr ⟨rfl, rfl⟩
  | cons first rest => exact Or.inl (List.mem_cons_self ..)

/-- What all declared aliases have in common holds of the alias in every order. -/
theorem aliasOf_eq_of_perm (h : other.entries.Perm params.entries) {ns : String} (usual : String)
    {α : Type} {read : String → α}
    (hsame : ∀ first ∈ aliases params ns, ∀ second ∈ aliases params ns,
      read first = read second) :
    read (aliasOf other ns usual) = read (aliasOf params ns usual) := by
  -- the same aliases are declared in every order, so both are among them or both are usual
  have hmem := mem_aliases_of_agree (agree_of_perm h) ns
  rcases aliasOf_mem_or other ns usual with hother | ⟨hnone, hother⟩
  · rcases aliasOf_mem_or params ns usual with hparams | ⟨hnone, -⟩
    · exact hsame _ ((hmem _).mp hother) _ hparams
    · have habsent := (hmem _).mp hother
      rw [hnone] at habsent
      cases habsent
  · rcases aliasOf_mem_or params ns usual with hparams | ⟨-, hparams⟩
    · have habsent := (hmem _).mpr hparams
      rw [hnone] at habsent
      cases habsent
    · rw [hother, hparams]

/-- Every alias that is declared for an extension counts in some order. -/
theorem exists_perm_aliasOf {ns name : String} (h : name ∈ aliases params ns) (usual : String) :
    ∃ other : Params, other.entries.Perm params.entries ∧ aliasOf other ns usual = name := by
  -- the declaration of the alias is put before all other entries
  have hentry : (aliasHead ++ name, ns) ∈ params.entries :=
    (Table.get?_eq_some_iff params _ _).mp (mem_aliases_iff.mp h)
  have hperm := (List.perm_cons_erase hentry).symm
  refine ⟨⟨_, (hperm.map Prod.fst).nodup_iff.mpr params.distinct⟩, hperm, ?_⟩
  rw [aliasOf, List.findSome?_cons, declared?_eq_some_iff.mpr rfl]
  rfl

/-- Reordered parameters of a positive assertion read as claims about the same identity. -/
theorem parse_of_perm (h : other.entries.Perm params.entries) {claims : Claims}
    (hclaims : parse params = .ok claims) :
    claims = claimsOf params claims.identityUrl ∧
      parse other = .ok (claimsOf other claims.identityUrl) := by
  obtain ⟨hmode, identity, hidentity, rfl⟩ := parse_eq_ok_iff.mp hclaims
  refine ⟨rfl, parse_eq_ok_iff.mpr ⟨?_, identity, ?_, rfl⟩⟩
  · rw [checkMode_eq_of_agree (agree_of_perm h), hmode]
  · rw [identity?_eq_of_agree (agree_of_perm h), hidentity]

/-- Reordered parameters of another assertion fail in the same way. -/
theorem parse_error_of_perm (h : other.entries.Perm params.entries) {fault : Fault}
    (hfault : parse params = .error fault) : parse other = .error fault := by
  rw [parse] at hfault ⊢
  rw [checkMode_eq_of_agree (agree_of_perm h), identity?_eq_of_agree (agree_of_perm h)]
  cases hmode : checkMode params with
  | error cause => rwa [hmode] at hfault
  | ok _ =>
      cases hidentity : identity? params with
      | none => rwa [hmode, hidentity] at hfault
      | some identity =>
          rw [hmode, hidentity] at hfault
          cases hfault

/-- With one reading of the aliases the claims do not depend on the order. -/
theorem claimsOf_eq_of_perm (h : other.entries.Perm params.entries) (hone : OneReading params)
    (identity : String) : claimsOf other identity = claimsOf params identity := by
  have hemail : extensionValue? params (registration other) "email" =
      extensionValue? params (registration params) "email" :=
    aliasOf_eq_of_perm h registrationAlias hone.email
  have hzone : extensionValue? params (registration other) "timezone" =
      extensionValue? params (registration params) "timezone" :=
    aliasOf_eq_of_perm h registrationAlias hone.timezone
  have hteams : (extensionValue? params (teams other) "is_member").map teamNames =
      (extensionValue? params (teams params) "is_member").map teamNames :=
    aliasOf_eq_of_perm h teamsAlias hone.teams
  simp only [claimsOf, extensionValue?_eq_of_perm h, hemail, hzone, hteams]

/-- Where the claims do not depend on the order, the aliases have one reading. -/
theorem oneReading_of_forall_perm {identity : String}
    (h : ∀ other : Params, other.entries.Perm params.entries →
      claimsOf other identity = claimsOf params identity) : OneReading params := by
  -- in the order in which an alias counts, its claims are those of `params`
  have hregistration {name : String} (hname : name ∈ aliases params registrationNamespace) :
      extensionValue? params name "email" = (claimsOf params identity).email ∧
        extensionValue? params name "timezone" = (claimsOf params identity).timezone := by
    obtain ⟨other, hperm, hother⟩ := exists_perm_aliasOf hname registrationAlias
    have hcounts : registration other = name := hother
    rw [← extensionValue?_eq_of_perm hperm, ← extensionValue?_eq_of_perm hperm, ← h other hperm,
      ← hcounts]
    exact ⟨rfl, rfl⟩
  have hteams {name : String} (hname : name ∈ aliases params teamsNamespace) :
      (extensionValue? params name "is_member").map teamNames =
        (claimsOf params identity).teams := by
    obtain ⟨other, hperm, hother⟩ := exists_perm_aliasOf hname teamsAlias
    have hcounts : teams other = name := hother
    rw [← extensionValue?_eq_of_perm hperm, ← h other hperm, ← hcounts]
    rfl
  constructor
  · intro first hfirst second hsecond
    exact (hregistration hfirst).1.trans (hregistration hsecond).1.symm
  · intro first hfirst second hsecond
    exact (hregistration hfirst).2.trans (hregistration hsecond).2.symm
  · intro first hfirst second hsecond
    exact (hteams hfirst).trans (hteams hsecond).symm

end Reordering

/-- An assertion reads the same in every order exactly when it is no positive one or its
aliases have one reading. -/
theorem parse_perm_iff (params : Params) :
    (∀ other : Params, other.entries.Perm params.entries → parse other = parse params) ↔
      ∀ claims, parse params = .ok claims → OneReading params := by
  constructor
  · intro hsame claims hclaims
    apply oneReading_of_forall_perm
    intro other h
    obtain ⟨hself, hother⟩ := parse_of_perm h hclaims
    rw [hsame other h, hclaims] at hother
    exact (Except.ok.inj hother).symm.trans hself
  -- mode and identity are looked up by their names, so only the claims can differ
  · intro hone other h
    cases hclaims : parse params with
    | error fault => exact parse_error_of_perm h hclaims
    | ok claims =>
        obtain ⟨hself, hother⟩ := parse_of_perm h hclaims
        rw [hother, hself]
        exact congrArg Except.ok (claimsOf_eq_of_perm h (hone claims hclaims) _)

end Assertion

/-! ## Attributes of an entry -/

namespace Directory

open SignOn.Text

/-- The same entry with its attributes in another order. -/
structure Entry.Reorders (other entry : Entry) : Prop where
  dn_eq : other.dn = entry.dn
  perm : other.attributes.Perm entry.attributes

/-- Whichever of the attributes named `name` in some letter case counts, what is read from
its values is the same. -/
def Entry.OneReading {α : Type} (entry : Entry) (name : String) (read : List String → α) : Prop :=
  ∀ first ∈ entry.attributes, ∀ second ∈ entry.attributes,
    sameName first.1 name = true → sameName second.1 name = true → read first.2 = read second.2

namespace Entry

variable {entry other : Entry} {name : String} {α β : Type}

/-- A reading tells the same as one that tells apart the same values. -/
theorem oneReading_comp_iff {tell : α → β} (htell : Function.Injective tell)
    {read : List String → α} :
    (entry.OneReading name fun values => tell (read values)) ↔ entry.OneReading name read := by
  constructor
  · intro h first hfirst second hsecond hname hname'
    exact htell (h first hfirst second hsecond hname hname')
  · intro h first hfirst second hsecond hname hname'
    exact congrArg tell (h first hfirst second hsecond hname hname')

/-- Every attribute of the name is found in some order. -/
theorem exists_reorders {named : String × List String} (h : named ∈ entry.attributes)
    (hname : sameName named.1 name = true) :
    ∃ other : Entry, other.Reorders entry ∧ other.values? name = some named.2 := by
  -- the attribute is put before all others
  refine ⟨⟨entry.dn, named :: entry.attributes.erase named⟩,
    ⟨rfl, (List.perm_cons_erase h).symm⟩, ?_⟩
  rw [values?, List.find?_cons, hname]
  rfl

/-- A reordered entry has the attributes that the entry has. -/
theorem Reorders.values?_eq_none_iff (h : other.Reorders entry) :
    other.values? name = none ↔ entry.values? name = none := by
  rw [Entry.values?_eq_none_iff, Entry.values?_eq_none_iff]
  exact forall_congr' fun named => imp_congr_left h.perm.mem_iff

/-- What is told of the values of an attribute is the same in every order exactly when all
attributes of the name tell the same. -/
theorem forall_reorders_iff (tell : Option (List String) → α) :
    (∀ other : Entry, other.Reorders entry →
        tell (other.values? name) = tell (entry.values? name)) ↔
      entry.OneReading name fun values => tell (some values) := by
  constructor
  -- each of two attributes is found in some order, and so tells what the entry tells
  · intro hsame first hfirst second hsecond hname hname'
    have htold {named : String × List String} (hnamed : named ∈ entry.attributes)
        (hname : sameName named.1 name = true) :
        tell (some named.2) = tell (entry.values? name) := by
      obtain ⟨other, h, hvalues⟩ := exists_reorders hnamed hname
      rw [← hvalues]
      exact hsame other h
    exact (htold hfirst hname).trans (htold hsecond hname').symm
  -- both orders find an attribute of the name or neither does
  · intro hone other h
    cases hvalues : entry.values? name with
    | none => rw [h.values?_eq_none_iff.mpr hvalues]
    | some values =>
        cases hother : other.values? name with
        | none =>
            rw [h.values?_eq_none_iff.mp hother] at hvalues
            cases hvalues
        | some values' =>
            obtain ⟨first, hfirst, hname, rfl⟩ := exists_of_values? hother
            obtain ⟨second, hsecond, hname', rfl⟩ := exists_of_values? hvalues
            exact hone first (h.perm.mem_iff.mp hfirst) second hsecond hname hname'

end Entry

namespace Client

variable {α : Type} {client : Client} {username : String} {entry : Entry}

/-- A question about a user is answered alike in whatever order the directory gives the
attributes of the user's entry. -/
def AnswersAlike (client : Client) (username : String) (entry : Entry)
    (answer : Context Store → α) : Prop :=
  ∀ other : Entry, other.Reorders entry → ∀ before after : Context Store,
    client.Finds username before.directory entry → client.Finds username after.directory other →
      answer after = answer before

/-- A directory that answers every search with one entry. -/
def alone (entry : Entry) : Context Store :=
  { store := Store.empty, session := Table.empty, directory := ⟨[], fun _ => .ok [entry]⟩
    reply := none, trace := .empty }

/-- A question whose answer is read from the groups in the entry is answered alike exactly
when all attributes `memberOf` read the same. -/
theorem answersAlike_iff {answer : Context Store → Except Fault (Option α)}
    {read : List String → α}
    (h : ∀ (context : Context Store) (entry : Entry),
      client.Finds username context.directory entry →
        answer context = .ok (some (read (groupDns entry)))) :
    client.AnswersAlike username entry answer ↔ entry.OneReading memberOf read := by
  have hinjective : Function.Injective fun value : α =>
      (.ok (some value) : Except Fault (Option α)) :=
    fun _ _ heq => Option.some.inj (Except.ok.inj heq)
  -- without the attribute the entry tells what an empty list of values would
  let tell (values : Option (List String)) : Except Fault (Option α) :=
    .ok (some (read (values.getD [])))
  refine Iff.trans ?_
    ((Entry.forall_reorders_iff tell).trans (Entry.oneReading_comp_iff hinjective))
  constructor
  -- a directory that answers with one entry shows what each order tells
  · intro halike other hother
    have hfinds (entry : Entry) : client.Finds username (alone entry).directory entry := ⟨[], rfl⟩
    have hsame := halike other hother _ _ (hfinds entry) (hfinds other)
    rwa [h _ _ (hfinds other), h _ _ (hfinds entry)] at hsame
  · intro hsame other hother before after hbefore hafter
    rw [h _ _ hbefore, h _ _ hafter]
    exact hsame other hother

/-- The names of the groups in the directory are told alike exactly when all attributes
`memberOf` have the same values. -/
theorem userGroups_answersAlike_iff (client : Client) (username : String) (entry : Entry) :
    client.AnswersAlike username entry (fun context => (client.userGroups username context).1) ↔
      entry.OneReading memberOf id := by
  apply answersAlike_iff
  rintro context entry ⟨others, hanswer⟩
  rw [userGroups_apply, hanswer]
  rfl

/-- The groups of a Kerberos login are told alike exactly when all attributes `memberOf`
stand for the same groups. -/
theorem names_answersAlike_iff (client : Client) (username : String) (entry : Entry) :
    client.AnswersAlike username entry
        (fun context =>
          ((⟨false, some client⟩ : GroupAuthority).names none (some username) context).1) ↔
      entry.OneReading memberOf GroupName.ofDns := by
  apply answersAlike_iff
  intro context entry hfinds
  exact congrArg Prod.fst (GroupAuthority.names_of_finds rfl rfl hfinds rfl)

end Client

end Directory

/-! ## Both tables -/

open SignOn.Directory

/-- What is read is the same in every order exactly when all entries that could come first
read the same: aliases declared for one extension in a positive assertion, and attributes of
one name in an entry, for their values, for the names of the groups in the directory and for
the groups of a Kerberos login. -/
theorem reading_order_iff (params : Assertion.Params) (entry : Entry) (client : Client)
    (username : String) :
    ((∀ other : Assertion.Params, other.entries.Perm params.entries →
          Assertion.parse other = Assertion.parse params) ↔
        ∀ claims, Assertion.parse params = .ok claims → Assertion.OneReading params) ∧
      (∀ name, (∀ other : Entry, other.Reorders entry →
          other.values? name = entry.values? name) ↔ entry.OneReading name id) ∧
      (client.AnswersAlike username entry (fun context => (client.userGroups username context).1) ↔
        entry.OneReading memberOf id) ∧
      (client.AnswersAlike username entry
          (fun context =>
            ((⟨false, some client⟩ : GroupAuthority).names none (some username) context).1) ↔
        entry.OneReading memberOf GroupName.ofDns) := by
  refine ⟨Assertion.parse_perm_iff params, ?_, ?_, ?_⟩
  · intro name
    exact (Entry.forall_reorders_iff id).trans
      (Entry.oneReading_comp_iff fun _ _ heq => Option.some.inj heq)
  · exact Client.userGroups_answersAlike_iff client username entry
  · exact Client.names_answersAlike_iff client username entry

/-! ### Two names for one thing -/

/-- An assertion about Alice that declares two aliases for one extension, with her signed
e-mail under the first. -/
def twiceDeclared : List (String × String) :=
  [("openid.mode", "id_res"), ("openid.claimed_id", "http://[::1]/alice"),
    ("openid.ns.sreg", Assertion.registrationNamespace),
    ("openid.ns.a", Assertion.registrationNamespace), ("openid.sreg.email", "alice@example.org"),
    ("openid.signed", "claimed_id,sreg.email")]

/-- An entry whose groups stand under two attributes that differ in letter case. -/
def twiceNamed : Entry :=
  ⟨"uid=alice", [("memberOf", ["cn=packager,ou=groups"]), ("MEMBEROF", ["cn=qa,ou=groups"])]⟩

/-- Her e-mail is lost in the opposite order, and in it she has other groups. -/
theorem reading_twiceNamed :
    ∃ params other : Assertion.Params, params.entries = twiceDeclared ∧
      other.entries.Perm params.entries ∧
      Assertion.parse params =
        .ok ⟨"http://[::1]/alice", some "alice@example.org", none, none⟩ ∧
      Assertion.parse other = .ok ⟨"http://[::1]/alice", none, none, none⟩ ∧
      ∃ turned : Entry, turned.Reorders twiceNamed ∧
        twiceNamed.values? memberOf = some ["cn=packager,ou=groups"] ∧
        turned.values? memberOf = some ["cn=qa,ou=groups"] := by
  refine ⟨⟨twiceDeclared, by decide +kernel⟩, ⟨twiceDeclared.reverse, by decide +kernel⟩, rfl,
    List.reverse_perm _, by decide +kernel, by decide +kernel,
    ⟨twiceNamed.dn, twiceNamed.attributes.reverse⟩, ⟨rfl, List.reverse_perm _⟩, ?_, ?_⟩
  · decide +kernel
  · decide +kernel

end SignOn
