import SignOn.Proofs.GroupAuthority
import SignOn.Proofs.GroupName

/-!
# The groups that an entry of the directory names

The groups of a Kerberos login are the values of the first `cn` of each name under the
attribute `memberOf`, in the order of the entry and as often as it names them; a name
without a `cn` is left out with a warning, and nothing else is (`names_of_answer`). A user
without the attribute has no groups, and the groups of a user without an entry are unknown.
-/

set_option autoImplicit false

namespace SignOn

namespace Directory

/-! ## Attributes of an entry -/

/-- An entry has the attribute `name` with these values; letter case does not count. -/
structure Entry.Has (entry : Entry) (name : String) (values : List String) : Prop where
  present : ∃ named ∈ entry.attributes, Text.sameName named.1 name = true
  all_eq : ∀ named ∈ entry.attributes, Text.sameName named.1 name = true → named.2 = values

/-- An entry does not have the attribute `name` in any letter case. -/
def Entry.Lacks (entry : Entry) (name : String) : Prop :=
  ∀ named ∈ entry.attributes, Text.sameName named.1 name = false

namespace Entry

variable {entry : Entry} {name : String}

/-- Values that are found are those of an attribute of the entry. -/
theorem exists_of_values? {values : List String} (h : entry.values? name = some values) :
    ∃ named ∈ entry.attributes, Text.sameName named.1 name = true ∧ named.2 = values := by
  obtain ⟨named, hfound, rfl⟩ := Option.map_eq_some_iff.mp h
  refine ⟨named, List.mem_of_find?_eq_some hfound, ?_, rfl⟩
  have hsame := List.find?_some hfound
  exact hsame

/-- Nothing is found exactly in an entry that lacks the attribute. -/
theorem values?_eq_none_iff : entry.values? name = none ↔ entry.Lacks name := by
  rw [values?, Option.map_eq_none_iff, List.find?_eq_none]
  exact forall₂_congr fun named _ => Bool.eq_false_iff.symm

/-- The values of an attribute that an entry has are found. -/
theorem Has.values?_eq {values : List String} (h : entry.Has name values) :
    entry.values? name = some values := by
  obtain ⟨named, hnamed, hsame⟩ := h.present
  cases hfound : entry.values? name with
  | none =>
      have habsent := values?_eq_none_iff.mp hfound named hnamed
      rw [hsame] at habsent
      cases habsent
  | some found =>
      obtain ⟨other, hother, hsame', rfl⟩ := exists_of_values? hfound
      rw [h.all_eq other hother hsame']

end Entry

/-! ## Answers of the directory -/

/-- The look-up of a user is answered with an entry, alone or before others. -/
def Client.Finds (client : Client) (username : String) (script : Script) (entry : Entry) : Prop :=
  ∃ others, (client.lookUp username script).answer = .ok (entry :: others)

end Directory

namespace GroupAuthority

open SignOn.Directory

variable {σ : Type} {authority : GroupAuthority} {client : Client} {username : String}
  {context : Context σ}

/-- The names of the groups of a user with an entry are those in the entry. -/
theorem names_of_finds (hfederated : authority.federated = false)
    (hdirectory : authority.directory = some client) {entry : Entry} {dns : List String}
    (h : client.Finds username context.directory entry) (hdns : Client.groupDns entry = dns) :
    let outcome := client.lookUp username context.directory
    authority.names none (some username) context =
      (.ok (some (GroupName.ofDns dns)),
        ((context.asking outcome.steps outcome.left).logging outcome.events).logging
          (GroupName.events dns ++ [.groupsResolved username (GroupName.ofDns dns).length])) := by
  intro outcome
  subst hdns
  obtain ⟨others, hanswer⟩ := h
  have hlog : nameEvents username outcome = outcome.events ++
      (GroupName.events (Client.groupDns entry) ++
        [.groupsResolved username (GroupName.ofDns (Client.groupDns entry)).length]) := by
    simp [nameEvents, Client.groupEvents, outcome, hanswer]
  rw [names_eq_namesFrom hfederated hdirectory, namesFrom_apply, hlog, Context.logging_logging,
    hanswer]
  rfl

/-- The groups of a user without an entry are unknown. -/
theorem names_of_nobody (hfederated : authority.federated = false)
    (hdirectory : authority.directory = some client)
    (h : (client.lookUp username context.directory).answer = .ok []) :
    let outcome := client.lookUp username context.directory
    authority.names none (some username) context =
      (.ok none, ((context.asking outcome.steps outcome.left).logging outcome.events).logging
        [.userNotInDirectory username]) := by
  intro outcome
  have hlog : nameEvents username outcome = outcome.events ++ [.userNotInDirectory username] := by
    simp [nameEvents, Client.groupEvents, outcome, h]
  rw [names_eq_namesFrom hfederated hdirectory, namesFrom_apply, hlog, Context.logging_logging, h]
  rfl

/-- Groups that are told by name are those in the entry that the directory finds. -/
theorem told_eq_some_iff {script : Script} {names : List String} :
    authority.told username script = .ok ⟨some names⟩ ↔
      ∃ client entry, authority = ⟨false, some client⟩ ∧ client.Finds username script entry ∧
        GroupName.ofDns (Client.groupDns entry) = names := by
  constructor
  -- nobody but a directory that answers with an entry tells names
  · intro h
    obtain ⟨federated, directory⟩ := authority
    cases federated with
    | true => cases h
    | false =>
        cases directory with
        | none => cases h
        | some client =>
            cases hanswer : (client.lookUp username script).answer with
            | error fault =>
                simp only [told, hanswer] at h
                cases h
            | ok entries =>
                simp only [told, hanswer] at h
                cases entries with
                | nil => cases h
                | cons entry others =>
                    have hnames := congrArg GroupSet.names (Except.ok.inj h)
                    exact ⟨client, entry, rfl, ⟨others, hanswer⟩, Option.some.inj hnames⟩
  · rintro ⟨client, entry, rfl, ⟨others, hanswer⟩, rfl⟩
    simp only [told, hanswer]
    rfl

/-- The names of the groups of a user are those that are told. -/
theorem told_eq_map_names (authority : GroupAuthority) (username : String) (context : Context σ) :
    authority.told username context.directory =
      (authority.names none (some username) context).1.map GroupSet.mk := by
  obtain ⟨events, left, hgroups⟩ := authority.groups_asking username context
  have htold := congrArg Prod.fst hgroups
  rw [groups, Call.bind_apply] at htold
  refine htold.symm.trans ?_
  cases hnames : authority.names none (some username) context with
  | mk answer after => cases answer <;> rfl

/-- Without federated login the groups of a user are unknown when the directory has no entry
of the user, none when the entry does not have the attribute, and otherwise the values of the
first `cn` of each name under it, in order; each name without a `cn` is warned about, once,
and no other. -/
theorem names_of_answer {σ : Type} {authority : GroupAuthority} {client : Client}
    (hfederated : authority.federated = false) (hdirectory : authority.directory = some client)
    (username : String) (context : Context σ) :
    let outcome := client.lookUp username context.directory
    let asked := (context.asking outcome.steps outcome.left).logging outcome.events
    let told := authority.names none (some username) context
    (outcome.answer = .ok [] → told = (.ok none, asked.logging [.userNotInDirectory username])) ∧
      ∀ entry, client.Finds username context.directory entry →
        (entry.Lacks memberOf →
          told = (.ok (some []), asked.logging [.groupsResolved username 0])) ∧
        ∀ dns : List Dn, entry.Has memberOf (dns.map Dn.text) →
          told = (.ok (some (dns.filterMap Dn.commonName?)),
            asked.logging
              ((dns.filter fun dn => Dn.commonName? dn = none).map (fun dn =>
                  .groupSkipped (Dn.text dn)) ++
                [.groupsResolved username (dns.filterMap Dn.commonName?).length])) := by
  intro outcome asked told
  refine ⟨names_of_nobody hfederated hdirectory, ?_⟩
  intro entry hfinds
  refine ⟨?_, ?_⟩
  · intro hlacks
    have hnone : Client.groupDns entry = [] := by
      rw [Client.groupDns, Entry.values?_eq_none_iff.mpr hlacks]
      rfl
    exact names_of_finds hfederated hdirectory hfinds hnone
  · intro dns hhas
    have hdns : Client.groupDns entry = dns.map Dn.text := by
      rw [Client.groupDns, hhas.values?_eq]
      rfl
    have htold := names_of_finds hfederated hdirectory hfinds hdns
    rw [GroupName.ofDns_text, GroupName.events_text] at htold
    exact htold

/-! ### Jane's groups -/

/-- Names that Jane's entry gives: one with blanks and an equals sign in its value, one
without a `cn`, and one twice. -/
def janeDns : List Dn :=
  let packager : Dn := [.assignment "cn" "packager" (by decide) (by decide),
    .assignment "ou" "groups" (by decide) (by decide)]
  [packager, [.bare "staff" (by decide), .assignment " CN" " qa=x " (by decide) (by decide)],
    [.assignment "ou" "cn=groups" (by decide) (by decide)], packager]

/-- Jane's entry without groups. -/
def janeAlone : Entry := ⟨"uid=jane", [("mail", ["jane@example.org"])]⟩

/-- Jane's entry with groups, under the attribute in another letter case. -/
def janeEntry : Entry :=
  ⟨"uid=jane", [("mail", ["jane@example.org"]), ("MEMBEROF", janeDns.map Dn.text)]⟩

/-- A directory that is down once and then answers with `entries`. -/
def downOnce (entries : List Entry) : Context Store :=
  { store := Store.empty, session := Table.empty
    directory := ⟨[.unavailable "down"], fun _ => .ok entries⟩, reply := none, trace := .empty }

/-- A client that asks the directory as often as it takes. -/
def patientClient : Client := ⟨"ou=users", ⟨none, 500⟩⟩

/-- A service without federated login that asks the directory. -/
def patient : GroupAuthority := ⟨false, some patientClient⟩

/-- Her groups are told with one warning; without the attribute she has none, and without an
entry they are unknown. -/
theorem names_jane :
    let asked := fun entries => patient.names none (some "jane") (downOnce entries)
    patient.federated = false ∧ patient.directory = some patientClient ∧
      patientClient.Finds "jane" (downOnce [janeEntry]).directory janeEntry ∧
      janeEntry.Has memberOf (janeDns.map Dn.text) ∧
      (asked [janeEntry]).1 = .ok (some ["packager", "qa=x", "packager"]) ∧
      (asked [janeEntry]).2.trace.events =
        [.searchRetried 1 "down" 500, .searchAnswered 2 1, .groupSkipped "ou=cn=groups",
          .groupsResolved "jane" 3] ∧
      janeAlone.Lacks memberOf ∧ (asked [janeAlone]).1 = .ok (some []) ∧
      (asked []).1 = .ok none := by
  intro asked
  have hfinds (entry : Entry) : patientClient.Finds "jane" (downOnce [entry]).directory entry :=
    ⟨[], rfl⟩
  have hhas : janeEntry.Has memberOf (janeDns.map Dn.text) := by
    refine ⟨⟨("MEMBEROF", janeDns.map Dn.text), by decide, by decide⟩, ?_⟩
    intro named hnamed hsame
    rcases List.mem_cons.mp hnamed with rfl | hrest
    · exact absurd hsame (by decide)
    · rw [List.mem_singleton.mp hrest]
  have hlacks : janeAlone.Lacks memberOf := by
    intro named hnamed
    rw [List.mem_singleton.mp hnamed]
    decide
  have hdirectory : patient.directory = some patientClient := rfl
  have hanswer (entries : List Entry) := names_of_answer rfl hdirectory "jane" (downOnce entries)
  have htold := ((hanswer [janeEntry]).2 janeEntry (hfinds janeEntry)).2 janeDns hhas
  have hnone := ((hanswer [janeAlone]).2 janeAlone (hfinds janeAlone)).1 hlacks
  refine ⟨rfl, rfl, hfinds janeEntry, hhas, ?_, ?_, hlacks, congrArg Prod.fst hnone,
    congrArg Prod.fst ((hanswer []).1 rfl)⟩
  · rw [show asked [janeEntry] = _ from htold]
    decide
  · rw [show asked [janeEntry] = _ from htold]
    decide

end GroupAuthority

end SignOn
