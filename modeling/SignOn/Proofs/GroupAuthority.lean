import SignOn.Groups
import SignOn.Proofs.Call

/-!
# What the directory tells about a login

`GroupAuthority.told` is the answer to the question for the groups of a Kerberos
login as a function of the answers the directory is about to give, and
`GroupAuthority.asked` what is asked of it; `groups_asking` says that the question is
answered so, and that asking it changes neither the store nor the session.
-/

set_option autoImplicit false

namespace SignOn

namespace Directory

/-- A search fails only because the directory refused it or was not available. -/
theorem attemptFrom_fault {policy : RetryPolicy} {search : Search}
    {settled : Search → Except String (List Entry)} {answers : List Answer} {fault : Fault}
    {attempt : UInt32}
    (h : (attemptFrom policy search settled attempt answers).answer = .error fault) :
    ∃ reason, fault = .directoryRefused reason ∨ fault = .directoryUnavailable reason := by
  -- over the answers that are left, one for each attempt
  induction answers generalizing attempt with
  | nil =>
      cases hs : settled search with
      | ok entries =>
          simp only [attemptFrom, hs] at h
          cases h
      | error reason =>
          simp only [attemptFrom, hs] at h
          exact ⟨reason, Or.inl (Except.error.inj h).symm⟩
  | cons answer left ih =>
      cases answer with
      | entries entries => cases h
      | refused reason => exact ⟨reason, Or.inl (Except.error.inj h).symm⟩
      | unavailable reason =>
          simp only [attemptFrom] at h
          split at h
          · exact ih h
          · exact ⟨reason, Or.inr (Except.error.inj h).symm⟩

namespace Client

variable {σ : Type}

/-- The search for the entry of a user. -/
def userSearch (client : Client) (username : String) : Search :=
  client.search userAttributes (Filter.build (userCriteria username))

/-- What comes of the search for the entry of a user. -/
def lookUp (client : Client) (username : String) (script : Script) : Outcome :=
  Directory.send client.policy (client.userSearch username) script

/-- The log of the question for the groups of a user. -/
def groupEvents (username : String) (outcome : Outcome) : List Event :=
  outcome.events ++
    match outcome.answer with
    | .ok [] => [.userNotInDirectory username]
    | _ => []

/-- The groups of a user are those of the first entry that is found. -/
theorem userGroups_apply (client : Client) (username : String) (context : Context σ) :
    client.userGroups username context =
      ((client.lookUp username context.directory).answer.map fun entries =>
          entries.head?.map groupDns,
        (context.asking (client.lookUp username context.directory).steps
          (client.lookUp username context.directory).left).logging
            (groupEvents username (client.lookUp username context.directory))) := by
  have hsend : (client.send userAttributes (Filter.build (userCriteria username)) : Call σ _)
      context = ((client.lookUp username context.directory).answer,
        (context.asking (client.lookUp username context.directory).steps
          (client.lookUp username context.directory).left).logging
            (client.lookUp username context.directory).events) := rfl
  cases hanswer : (client.lookUp username context.directory).answer with
  | ok entries =>
      cases entries with
      | nil | cons =>
          simp [userGroups, Call.attempt, Client.user, findOne, Call.bind_apply, hsend, hanswer,
            Except.map, groupEvents]
  | error fault =>
      obtain ⟨reason, rfl | rfl⟩ := attemptFrom_fault hanswer <;>
        simp [userGroups, Call.attempt, Client.user, findOne, Call.bind_apply, hsend, hanswer,
          Except.map, groupEvents]

end Client

end Directory

namespace GroupAuthority

variable {σ : Type}

/-- The log of the question for the names of the groups of a user: a warning for each name
without a `cn`, and how many groups there are. -/
def nameEvents (username : String) (outcome : Directory.Outcome) : List Event :=
  Directory.Client.groupEvents username outcome ++
    match outcome.answer with
    | .ok (entry :: _) =>
      GroupName.events (Directory.Client.groupDns entry) ++
        [.groupsResolved username (GroupName.ofDns (Directory.Client.groupDns entry)).length]
    | _ => []

/-- The names of the groups of a user are those in the first entry that is found. -/
theorem namesFrom_apply (client : Directory.Client) (username : String) (context : Context σ) :
    namesFrom client username context =
      ((client.lookUp username context.directory).answer.map fun entries =>
          entries.head?.map fun entry => GroupName.ofDns (Directory.Client.groupDns entry),
        (context.asking (client.lookUp username context.directory).steps
          (client.lookUp username context.directory).left).logging
            (nameEvents username (client.lookUp username context.directory))) := by
  have hgroups := client.userGroups_apply username context
  cases hanswer : (client.lookUp username context.directory).answer with
  | error fault =>
      simp [namesFrom, Call.bind_apply, hgroups, hanswer, Except.map, nameEvents]
  | ok entries =>
      cases entries with
      | nil | cons =>
          simp [namesFrom, Call.bind_apply, hgroups, hanswer, Except.map, nameEvents]

/-- Without federated login the directory is asked for the names of the groups of a user. -/
theorem names_eq_namesFrom {authority : GroupAuthority} {client : Directory.Client}
    (hfederated : authority.federated = false) (hdirectory : authority.directory = some client)
    {username : String} :
    (authority.names none (some username) : Call σ _) = namesFrom client username := by
  rw [names, hfederated, hdirectory]
  rfl

/-- The groups told for a Kerberos login. -/
def told (authority : GroupAuthority) (username : String) (script : Directory.Script) :
    Except Fault GroupSet :=
  if authority.federated then .ok ⟨none⟩
  else
    match authority.directory with
    | none => .error .noGroupSource
    | some client => (client.lookUp username script).answer.map fun entries =>
        ⟨entries.head?.map fun entry => GroupName.ofDns (Directory.Client.groupDns entry)⟩

/-- Groups are not told only for want of a source, or because the directory fails. -/
theorem told_fault {authority : GroupAuthority} {username : String} {script : Directory.Script}
    {fault : Fault} (h : authority.told username script = .error fault) :
    fault = .noGroupSource ∨
      ∃ reason, fault = .directoryRefused reason ∨ fault = .directoryUnavailable reason := by
  rw [told] at h
  split at h
  · cases h
  · split at h
    · exact Or.inl (Except.error.inj h).symm
    · next client _ =>
        cases hanswer : (client.lookUp username script).answer with
        | ok entries =>
            rw [hanswer] at h
            cases h
        | error cause =>
            rw [hanswer] at h
            obtain rfl := Except.error.inj h
            exact Or.inr (Directory.attemptFrom_fault hanswer)

/-- A directory that finds nobody tells that the groups are unknown, as does a service that
asks nobody. -/
theorem told_of_nobody (authority : GroupAuthority)
    (h : authority.federated = true ∨ authority.directory ≠ none) (username : String) :
    authority.told username ⟨[], fun _ => .ok []⟩ = .ok ⟨none⟩ := by
  cases hf : authority.federated with
  | true => rw [told, if_pos hf]
  | false =>
      cases hd : authority.directory with
      | none => simp [hf, hd] at h
      | some client =>
          rw [told, if_neg (by simp [hf]), hd]
          rfl

/-- Steps made towards the directory for the groups of a Kerberos login. -/
def asked (authority : GroupAuthority) (username : String) (script : Directory.Script) :
    List Directory.Step :=
  if authority.federated then []
  else
    match authority.directory with
    | none => []
    | some client => (client.lookUp username script).steps

/-- The groups of a Kerberos login are those that are told; only the log changes, and
what was asked of the directory. -/
theorem groups_asking (authority : GroupAuthority) (username : String) (context : Context σ) :
    ∃ events left, authority.groups none (some username) context =
      (authority.told username context.directory,
        (context.asking (authority.asked username context.directory) left).logging events) := by
  -- a service with federated login asks nobody, and so does one without a directory
  cases hf : authority.federated with
  | true =>
      refine ⟨[], context.directory.opening, ?_⟩
      simp [groups, names, told, asked, Call.bind_apply, hf]
  | false =>
      cases hd : authority.directory with
      | none =>
          refine ⟨[], context.directory.opening, ?_⟩
          simp [groups, names, told, asked, Call.bind_apply, hf, hd]
      | some client =>
          refine ⟨nameEvents username (client.lookUp username context.directory),
            (client.lookUp username context.directory).left, ?_⟩
          have hgroups := Call.bind_pure_of_eq (namesFrom_apply client username context) GroupSet.mk
          rw [groups, names_eq_namesFrom hf hd, hgroups]
          simp only [told, asked, hf, hd, Bool.false_eq_true, if_false]
          cases (client.lookUp username context.directory).answer <;> rfl

end GroupAuthority

end SignOn
