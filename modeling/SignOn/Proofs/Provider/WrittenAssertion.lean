import SignOn.Proofs.GroupName
import SignOn.Proofs.Provider.Tampering

/-!
# Assertions as a provider writes them

A `Message` is what a provider says about a user: the claims, the aliases it chose for the
two extensions, the fields it signs and whatever else it sends. Written as parameters, in
any order, a message is read back as its claims (`parse_of_written`); an empty list of teams
is not the same as none.
-/

set_option autoImplicit false

namespace SignOn.Assertion

open SignOn.Text

/-! ## Messages -/

/-- What a provider puts into a positive assertion. -/
structure Message where
  claims : Claims
  /-- The alias of the extension that carries e-mail and timezone. -/
  registrationName : String
  /-- The alias of the extension that carries teams. -/
  teamsName : String
  /-- The list of signed fields, if there is one. -/
  signed : Option (List String)
  /-- Other parameters. -/
  further : List (String × String)

/-- A name that a provider may choose for an extension. -/
structure IsAlias (name : String) : Prop extends IsItem name where
  unreserved : ¬ "ns".toList <+: name.toList

namespace Message

/-- Values of the fields of extensions, each under its alias and its field. -/
def fields (message : Message) : List ((String × String) × String) :=
  (message.claims.email.map fun email => ((message.registrationName, "email"), email)).toList ++
    (message.claims.timezone.map fun zone =>
      ((message.registrationName, "timezone"), zone)).toList ++
    (message.claims.teams.map fun names =>
      ((message.teamsName, "is_member"), joined "," names)).toList

/-- The parameters of a message. -/
def entries (message : Message) : List (String × String) :=
  [("openid.mode", "id_res"), ("openid.claimed_id", message.claims.identityUrl),
    ("openid.ns." ++ message.registrationName, registrationNamespace),
    ("openid.ns." ++ message.teamsName, teamsNamespace)] ++
    (message.fields.map fun field =>
      ("openid." ++ field.1.1 ++ "." ++ field.1.2, field.2)) ++
    (message.signed.map fun names => ("openid.signed", joined "," names)).toList ++
    message.further

/-- Parameters that have their place in a message. -/
def reserved (message : Message) : List String :=
  ["openid.mode", "openid.claimed_id", "openid.signed",
    "openid." ++ message.registrationName ++ ".email",
    "openid." ++ message.registrationName ++ ".timezone",
    "openid." ++ message.teamsName ++ ".is_member"]

/-- The message can be told from its parameters: no claim but the list of teams is empty, the
names can stand in a list, and a list of signed fields names every field that is sent. -/
structure WellFormed (message : Message) : Prop where
  identity : message.claims.identityUrl ≠ ""
  email : message.claims.email ≠ some ""
  timezone : message.claims.timezone ≠ some ""
  teams : ∀ names, message.claims.teams = some names → ∀ name ∈ names, GroupName.IsNormal name
  registrationName : IsAlias message.registrationName
  teamsName : IsAlias message.teamsName
  distinct : message.registrationName ≠ message.teamsName
  signed : ∀ names, message.signed = some names →
    (∀ name ∈ names, ',' ∉ name.toList) ∧
      ∀ field ∈ message.fields, ∃ name ∈ names, trim name = field.1.1 ++ "." ++ field.1.2
  further : ∀ entry ∈ message.further,
    ¬ "openid.ns.".toList <+: entry.1.toList ∧ entry.1 ∉ message.reserved

/-! ## Names of parameters -/

/-- The name of a parameter of the protocol is no field of an extension. -/
theorem ne_fieldName (word : String) {name field : String} (h : '.' ∉ word.toList) :
    "openid." ++ word ≠ "openid." ++ fieldName name field := by
  intro he
  have hword : word = fieldName name field := by simpa using he
  apply h
  rw [hword, fieldName]
  simp

/-- Fields of extensions are told apart by their alias and their field. -/
theorem fieldName_inj {first second field other : String} (hfield : '.' ∉ field.toList)
    (hother : '.' ∉ other.toList) (h : fieldName first field = fieldName second other) :
    first = second ∧ field = other := by
  have hchars := congrArg (fun text => text.toList.reverse) h
  simp only [fieldName, String.toList_append, List.reverse_append, List.append_assoc] at hchars
  -- read backwards both names are cut at their first dot
  have hcut (name field : String) (hfield : '.' ∉ field.toList) :
      splitFirst? '.' (field.toList.reverse ++ (".".toList.reverse ++ name.toList.reverse)) =
        some (field.toList.reverse, name.toList.reverse) :=
    splitFirst?_eq_some_iff.mpr ⟨rfl, by simpa using hfield⟩
  have hparts := (hcut first field hfield).symm.trans (hchars ▸ hcut second other hother)
  simpa [String.toList_inj, and_comm] using hparts

/-- The field of an extension is no declaration of an alias. -/
theorem not_declaration {name field : String} (h : IsAlias name) :
    ¬ "openid.ns.".toList <+: ("openid." ++ fieldName name field).toList := by
  rintro ⟨rest, hrest⟩
  have hchars : 'n' :: 's' :: '.' :: rest = name.toList ++ '.' :: field.toList := by
    simpa [fieldName] using hrest
  apply h.unreserved
  cases hname : name.toList with
  | nil => simp [hname] at hchars
  | cons first others =>
      cases others with
      | nil => simp [hname] at hchars
      | cons second others =>
          rw [hname] at hchars
          obtain ⟨rfl, rfl, -⟩ : 'n' = first ∧ 's' = second ∧ _ := by simpa using hchars
          exact ⟨others, rfl⟩

/-! ## What stands in a message -/

/-- Parameters of a message and their values. -/
inductive Holds (message : Message) : String → String → Prop
  | mode : Holds message "openid.mode" "id_res"
  | identity : Holds message "openid.claimed_id" message.claims.identityUrl
  | registration :
      Holds message (aliasHead ++ message.registrationName) registrationNamespace
  | teams : Holds message (aliasHead ++ message.teamsName) teamsNamespace
  | field {name field value : String} (h : ((name, field), value) ∈ message.fields) :
      Holds message ("openid." ++ fieldName name field) value
  | signed {names : List String} (h : message.signed = some names) :
      Holds message "openid.signed" (joined "," names)
  | further {key value : String} (h : (key, value) ∈ message.further) : Holds message key value

/-- The entries of a message are its parameters. -/
theorem mem_entries_iff {message : Message} {key value : String} :
    (key, value) ∈ message.entries ↔ message.Holds key value := by
  have hkey (name field : String) :
      "openid." ++ name ++ "." ++ field = "openid." ++ fieldName name field := by
    simp [fieldName, String.append_assoc]
  simp only [entries, List.mem_append, List.mem_cons, List.not_mem_nil, or_false, List.mem_map,
    Option.mem_toList, Option.map_eq_some_iff, Prod.mk.injEq, hkey]
  constructor
  · intro h
    rcases h with (((⟨rfl, rfl⟩ | ⟨rfl, rfl⟩ | ⟨rfl, rfl⟩ | ⟨rfl, rfl⟩) |
      ⟨field, hfield, rfl, rfl⟩) | ⟨names, hnames, rfl, rfl⟩) | hfurther
    · exact .mode
    · exact .identity
    · exact .registration
    · exact .teams
    · exact .field hfield
    · exact .signed hnames
    · exact .further hfurther
  · intro h
    cases h with
    | mode => simp
    | identity => simp
    | registration => simp [aliasHead]
    | teams => simp [aliasHead]
    | field hfield => exact Or.inl (Or.inl (Or.inr ⟨_, hfield, rfl, rfl⟩))
    | signed hnames => exact Or.inl (Or.inr ⟨_, hnames, rfl, rfl⟩)
    | further hfurther => exact Or.inr hfurther

section Holding

variable {message : Message} {key name field value : String}

/-- The fields that are sent stand under an alias, have names without dots, and values
unless they are lists of teams. -/
theorem of_mem_fields (hmessage : message.WellFormed)
    (h : ((name, field), value) ∈ message.fields) :
    IsAlias name ∧ '.' ∉ field.toList ∧ (value ≠ "" ∨ field = "is_member") := by
  simp only [fields, List.mem_append, Option.mem_toList, Option.map_eq_some_iff,
    Prod.mk.injEq] at h
  rcases h with (⟨email, hemail, ⟨rfl, rfl⟩, rfl⟩ | ⟨zone, hzone, ⟨rfl, rfl⟩, rfl⟩) |
    ⟨names, hnames, ⟨rfl, rfl⟩, rfl⟩
  · refine ⟨hmessage.registrationName, by decide, Or.inl ?_⟩
    rintro rfl
    exact hmessage.email hemail
  · refine ⟨hmessage.registrationName, by decide, Or.inl ?_⟩
    rintro rfl
    exact hmessage.timezone hzone
  · exact ⟨hmessage.teamsName, by decide, Or.inr rfl⟩

/-- A message declares the two aliases and no other. -/
theorem Holds.declared (hmessage : message.WellFormed) (h : message.Holds key value)
    (hkey : key = aliasHead ++ name) :
    (name = message.registrationName ∧ value = registrationNamespace) ∨
      (name = message.teamsName ∧ value = teamsNamespace) := by
  have hhead : "openid.ns.".toList <+: key.toList := by
    rw [hkey, String.toList_append]
    exact List.prefix_append ..
  cases h with
  | mode => exact absurd hhead (by decide)
  | identity => exact absurd hhead (by decide)
  | signed => exact absurd hhead (by decide)
  | registration => exact Or.inl ⟨by simpa using hkey.symm, rfl⟩
  | teams => exact Or.inr ⟨by simpa using hkey.symm, rfl⟩
  | field hfield => exact absurd hhead (not_declaration (of_mem_fields hmessage hfield).1)
  | further hfurther => exact absurd hhead (hmessage.further _ hfurther).1

/-- A field with its place in a message is sent as it is given. -/
theorem Holds.mem_fields (hmessage : message.WellFormed) (h : message.Holds key value)
    (hkey : key = "openid." ++ fieldName name field) (hname : IsAlias name)
    (hfield : '.' ∉ field.toList) (hreserved : key ∈ message.reserved) :
    ((name, field), value) ∈ message.fields := by
  have hdeclared : ¬ "openid.ns.".toList <+: key.toList := hkey ▸ not_declaration hname
  cases h with
  | mode => exact absurd hkey (ne_fieldName "mode" (by decide))
  | identity => exact absurd hkey (ne_fieldName "claimed_id" (by decide))
  | signed => exact absurd hkey (ne_fieldName "signed" (by decide))
  | registration =>
      rw [String.toList_append] at hdeclared
      exact absurd (List.prefix_append ..) hdeclared
  | teams =>
      rw [String.toList_append] at hdeclared
      exact absurd (List.prefix_append ..) hdeclared
  | @field other part _ h =>
      have hsame : fieldName other part = fieldName name field := by simpa using hkey
      obtain ⟨rfl, rfl⟩ := fieldName_inj (of_mem_fields hmessage h).2.1 hfield hsame
      exact h
  | further hfurther => exact absurd hreserved (hmessage.further _ hfurther).2

/-- The list of signed fields is the one that is sent. -/
theorem Holds.signed_eq (hmessage : message.WellFormed) (h : message.Holds key value)
    (hkey : key = "openid.signed") :
    ∃ names, message.signed = some names ∧ value = joined "," names := by
  cases h with
  | mode => exact absurd hkey (by decide)
  | identity => exact absurd hkey (by decide)
  | registration =>
      have hchars := congrArg String.toList hkey
      simp [aliasHead] at hchars
  | teams =>
      have hchars := congrArg String.toList hkey
      simp [aliasHead] at hchars
  | field => exact absurd hkey.symm (ne_fieldName "signed" (by decide))
  | signed hnames => exact ⟨_, hnames, rfl⟩
  | further hfurther =>
      refine absurd ?_ (hmessage.further _ hfurther).2
      simp [hkey, reserved]

end Holding

end Message

/-! ## Reading a message -/

section Reading

variable {message : Message} {params : Params}

/-- The values of parameters are those of the message. -/
theorem get?_eq_some_iff_holds (h : params.entries.Perm message.entries) {key value : String} :
    params.get? key = some value ↔ message.Holds key value := by
  rw [Table.get?_eq_some_iff, h.mem_iff, Message.mem_entries_iff]

/-- An alias that is the only one declared for an extension is its alias. -/
theorem aliasOf_of_forall_mem_iff {ns usual name : String}
    (h : ∀ other, other ∈ aliases params ns ↔ other = name) : aliasOf params ns usual = name := by
  rw [aliasOf_eq_head?]
  cases hall : aliases params ns with
  | nil =>
      rw [hall] at h
      exact absurd ((h name).mpr rfl) List.not_mem_nil
  | cons first rest =>
      rw [hall] at h
      exact (h first).mp (List.mem_cons_self ..)

/-- Each extension has the alias that the message gives it. -/
theorem aliases_of_message (hmessage : message.WellFormed)
    (h : params.entries.Perm message.entries) :
    registration params = message.registrationName ∧ teams params = message.teamsName := by
  -- the namespaces differ, so a declaration tells which extension it is of
  have hdiffer : registrationNamespace ≠ teamsNamespace := by decide
  refine ⟨aliasOf_of_forall_mem_iff fun other => ?_, aliasOf_of_forall_mem_iff fun other => ?_⟩
  · rw [mem_aliases_iff, get?_eq_some_iff_holds h]
    constructor
    · intro hholds
      rcases hholds.declared hmessage rfl with ⟨hother, -⟩ | ⟨-, hsame⟩
      · exact hother
      · exact absurd hsame hdiffer
    · rintro rfl
      exact .registration
  · rw [mem_aliases_iff, get?_eq_some_iff_holds h]
    constructor
    · intro hholds
      rcases hholds.declared hmessage rfl with ⟨-, hsame⟩ | ⟨hother, -⟩
      · exact absurd hsame.symm hdiffer
      · exact hother
    · rintro rfl
      exact .teams

/-- The fields that are sent are believed. -/
theorem isBelieved_of_mem_fields (hmessage : message.WellFormed)
    (h : params.entries.Perm message.entries) {name field value : String}
    (hfield : ((name, field), value) ∈ message.fields) :
    isBelieved params (fieldName name field) = true := by
  cases hlist : params.get? "openid.signed" with
  | none => simp [isBelieved, signedFields?, hlist]
  | some list =>
      obtain ⟨names, hnames, rfl⟩ := ((get?_eq_some_iff_holds h).mp hlist).signed_eq hmessage rfl
      obtain ⟨hplain, hall⟩ := hmessage.signed names hnames
      obtain ⟨item, hitem, htrim⟩ := hall _ hfield
      have hpieces : pieces ',' (joined "," names) = names :=
        pieces_joined rfl (List.ne_nil_of_mem hitem) hplain
      have hmem : fieldName name field ∈ names.map trim := List.mem_map.mpr ⟨item, hitem, htrim⟩
      rw [isBelieved, signedFields?, hlist, Option.map_some, hpieces, Option.all_some]
      exact decide_eq_true hmem

/-- A field is read as the message gives it, be it sent or not. -/
theorem extensionValue?_of_message (hmessage : message.WellFormed)
    (h : params.entries.Perm message.entries) {name field : String} {given : Option String}
    (hname : IsAlias name) (hdot : '.' ∉ field.toList)
    (hreserved : "openid." ++ fieldName name field ∈ message.reserved)
    (hgiven : ∀ value, ((name, field), value) ∈ message.fields ↔ given = some value) :
    extensionValue? params name field = given := by
  -- the key has its place in the message, so nothing else that is sent stands under it
  have hget : params.get? ("openid." ++ fieldName name field) = given := by
    apply Option.ext
    intro value
    rw [get?_eq_some_iff_holds h, ← hgiven value]
    exact ⟨fun hholds => hholds.mem_fields hmessage rfl hname hdot hreserved, .field⟩
  cases given with
  | none =>
      rw [extensionValue?, hget]
      split <;> rfl
  | some value =>
      have hfield := (hgiven value).mpr rfl
      obtain ⟨-, -, hkept⟩ := Message.of_mem_fields hmessage hfield
      rw [extensionValue?, if_pos (isBelieved_of_mem_fields hmessage h hfield), hget]
      refine Option.filter_eq_some_iff.mpr ⟨rfl, ?_⟩
      rw [Bool.or_eq_true, decide_eq_true_iff, decide_eq_true_iff]
      exact hkept

/-- The claims of a message are read from its parameters. -/
theorem claimsOf_of_message (hmessage : message.WellFormed)
    (h : params.entries.Perm message.entries) :
    claimsOf params message.claims.identityUrl = message.claims := by
  obtain ⟨hregistration, hteams⟩ := aliases_of_message hmessage h
  have hemail : extensionValue? params message.registrationName "email" = message.claims.email := by
    refine extensionValue?_of_message hmessage h hmessage.registrationName (by decide) ?_ ?_
    · simp [Message.reserved, fieldName, String.append_assoc]
    · intro value
      simp [Message.fields]
  have hzone : extensionValue? params message.registrationName "timezone" =
      message.claims.timezone := by
    refine extensionValue?_of_message hmessage h hmessage.registrationName (by decide) ?_ ?_
    · simp [Message.reserved, fieldName, String.append_assoc]
    · intro value
      simp [Message.fields]
  have hmember : extensionValue? params message.teamsName "is_member" =
      message.claims.teams.map (joined ",") := by
    refine extensionValue?_of_message hmessage h hmessage.teamsName (by decide) ?_ ?_
    · simp [Message.reserved, fieldName, String.append_assoc]
    · intro value
      simp [Message.fields]
  -- an empty list of teams is sent as an empty text and read as an empty list
  have hnames : (message.claims.teams.map (joined ",")).map teamNames = message.claims.teams := by
    rw [Option.map_map]
    cases hteams : message.claims.teams with
    | none => rfl
    | some names => exact congrArg some (teamNames_joined (hmessage.teams names hteams))
  rw [claimsOf, hregistration, hteams, hemail, hzone, hmember, hnames]

end Reading

/-- A message is read back from its parameters, in whatever order they come: the identity,
the e-mail and the timezone as far as they are given, and the teams, of which an empty list
is not the same as none. -/
theorem parse_of_written {message : Message} (hmessage : message.WellFormed) {params : Params}
    (h : params.entries.Perm message.entries) : parse params = .ok message.claims := by
  have hmode : params.get? "openid.mode" = some "id_res" := (get?_eq_some_iff_holds h).mpr .mode
  have hclaimed : params.get? "openid.claimed_id" = some message.claims.identityUrl :=
    (get?_eq_some_iff_holds h).mpr .identity
  have hcheck : checkMode params = .ok () := by
    rw [checkMode, hmode]
    rfl
  have hidentity : identity? params = some message.claims.identityUrl := by
    rw [identity?, hclaimed]
    simpa [Option.filter] using hmessage.identity
  exact parse_eq_ok_iff.mpr ⟨hcheck, _, hidentity, (claimsOf_of_message hmessage h).symm⟩

/-! ### A message with aliases of its own -/

/-- What a provider says about Bob: an e-mail that looks like a namespace, a timezone and no
team; it signs its fields with blanks around, and sends a claim under the usual alias too. -/
def bobMessage : Message :=
  { claims := ⟨"http://[::1]/bob", some registrationNamespace, some "UTC", some []⟩
    registrationName := "lp", teamsName := "n.s"
    signed := some ["claimed_id", " lp.email", "lp.timezone ", "n.s.is_member"]
    further := [("openid.identity", ""), ("openid.sreg.email", "eve@example.org"),
      ("openid.lp.is_member", "root")] }

/-- Bob's parameters, the last one first. -/
def bobParams : Params :=
  ⟨bobMessage.entries.reverse, by decide +kernel⟩

/-- Bob is read as the provider wrote him, with an empty list of teams. -/
theorem parse_bobParams :
    bobMessage.WellFormed ∧ bobParams.entries.Perm bobMessage.entries ∧
      parse bobParams =
        .ok ⟨"http://[::1]/bob", some registrationNamespace, some "UTC", some []⟩ := by
  have hmessage : bobMessage.WellFormed :=
    { identity := by decide
      email := by decide
      timezone := by decide
      teams := by
        rintro names hnames name hname
        obtain rfl : [] = names := Option.some.inj hnames
        cases hname
      registrationName := ⟨by decide +kernel, by decide⟩
      teamsName := ⟨by decide +kernel, by decide⟩
      distinct := by decide
      signed := by
        rintro names hnames
        obtain rfl := Option.some.inj hnames
        decide +kernel
      further := by decide +kernel }
  have hperm : bobParams.entries.Perm bobMessage.entries := List.reverse_perm _
  exact ⟨hmessage, hperm, parse_of_written hmessage hperm⟩

end SignOn.Assertion
