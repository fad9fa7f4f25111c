import SignOn.Gateway
import SignOn.Proofs.Call
import SignOn.Proofs.Store.WellFormed

/-!
# Markers and the user they name

Who a session is logged in as is a question to its markers and to the store:
`sessionUser?` answers it, and `currentUser_apply` says that the gateway gives
that answer without changing anything. A gateway built from settings has the federated
mechanism exactly when the settings lead to a provider (`ofSettings_federated`), and consults
its marker first (`ofSettings_mechanisms`), so a new federated marker decides
(`marker?_put_federated`), and a new Kerberos marker decides when the session has no
identity (`marker?_put_directory`).

A gateway with both mechanisms and a store with one user are here as well, for the
inputs at which later modules evaluate what they prove.
-/

set_option autoImplicit false

namespace SignOn.Gateway

/-! ## The user of a session -/

/-- The user of a store that a session is logged in as. -/
def sessionUser? (gateway : Gateway) (session : Session) (store : Store) : Option User :=
  (gateway.sessionName? session).bind store.userNamed?

/-- The gateway answers with the user of the session and changes only the log. -/
theorem currentUser_apply (gateway : Gateway) (context : Context Store) :
    ∃ events, gateway.currentUser context =
      (.ok (gateway.sessionUser? context.session context.store), context.logging events) := by
  cases hname : gateway.sessionName? context.session with
  | none =>
      refine ⟨gateway.sessionEvents context.session, ?_⟩
      simp [currentUser, currentName, Call.bind_apply, sessionUser?, hname]
  | some name =>
      cases huser : context.store.userNamed? name with
      | none =>
          refine ⟨gateway.sessionEvents context.session ++ [.unknownSessionUser name], ?_⟩
          simp [currentUser, currentName, Call.bind_apply, sessionUser?, hname, huser]
      | some user =>
          refine ⟨gateway.sessionEvents context.session, ?_⟩
          simp [currentUser, currentName, Call.bind_apply, sessionUser?, hname, huser]

/-- In a well-formed store the user of a session is the one its name stands for. -/
theorem map_id_sessionUser? (gateway : Gateway) (session : Session) {store : Store}
    (h : store.WellFormed) :
    (gateway.sessionUser? session store).map User.id =
      (gateway.sessionName? session).bind store.names.get? := by
  cases hname : gateway.sessionName? session with
  | none => simp [sessionUser?, hname]
  | some name => simp [sessionUser?, hname, Store.map_id_userNamed? h]

/-! ## Markers of a session -/

/-- What a session says about a kind after a marker is put. -/
theorem marker?_put (session : Session) (kind other : MechanismKind) {marker : String}
    (h : marker ≠ "") : Session.marker? (session.put kind.sessionKey marker) other =
      if kind = other then some marker else session.marker? other := by
  by_cases hk : kind = other
  · subst hk
    simp [Session.marker?, h]
  -- the kinds have different keys
  · have hne : kind.sessionKey ≠ other.sessionKey :=
      fun he => hk (MechanismKind.sessionKey_injective he)
    simp [Session.marker?, Table.get?_put_of_ne _ _ hne, hk]

/-- The identity a session is marked with, while federated login is on. -/
def identity? (gateway : Gateway) (session : Session) : Option String :=
  if gateway.isEnabled .federated then session.marker? .federated else none

theorem identity?_eq_some_iff {gateway : Gateway} {session : Session} {identity : String} :
    gateway.identity? session = some identity ↔
      gateway.isEnabled .federated = true ∧ session.marker? .federated = some identity := by
  simp [identity?]

/-- A Kerberos marker leaves the identity of a session alone. -/
theorem identity?_put_directory (gateway : Gateway) (session : Session) (marker : String) :
    gateway.identity? (session.put MechanismKind.directory.sessionKey marker) =
      gateway.identity? session := by
  have hne : MechanismKind.directory.sessionKey ≠ MechanismKind.federated.sessionKey := by decide
  simp [identity?, Session.marker?, Table.get?_put_of_ne _ _ hne]

/-- A cleared session has no marker. -/
theorem marker?_clearAll (session : Session) (kind : MechanismKind) :
    session.clearAll.marker? kind = none := by
  have hne : MechanismKind.directory.sessionKey ≠ MechanismKind.federated.sessionKey := by decide
  cases kind with
  | federated =>
      simp [Session.clearAll, MechanismKind.all, Session.clear, Session.marker?,
        Table.get?_erase_of_ne _ hne]
  | directory => simp [Session.clearAll, MechanismKind.all, Session.clear, Session.marker?]

section Logout

variable {σ : Type}

/-- A logout clears the session. -/
theorem logout_apply (gateway : Gateway) (context : Context σ) : ∃ events,
    gateway.logout context =
      (.ok (), (context.withSession context.session.clearAll).logging events) := by
  refine ⟨gateway.sessionEvents context.session ++
    (gateway.sessionName? context.session).elim [] fun name => [.loggedOut name], ?_⟩
  simp [logout, currentName, Call.bind_apply]

/-- A logout never fails. -/
theorem logout_eq_ok (gateway : Gateway) (context : Context σ) :
    (gateway.logout context).1 = .ok () := by
  obtain ⟨events, hend⟩ := gateway.logout_apply context
  rw [hend]

end Logout

/-! ## The mechanisms of a gateway -/

/-- What settings make of the federated mechanism. -/
inductive FederatedSetting (settings : Settings) : Except Fault (List Mechanism) → Prop
  /-- There is no provider to log in at. -/
  | off (hoff : settings.auth.federated = false ∨ settings.auth.providerUrl = none) :
      FederatedSetting settings (.ok [])
  /-- The URL of the provider cannot be read. -/
  | unreadable {text : String} {fault : Fault} (hon : settings.auth.federated = true)
      (htext : settings.auth.providerUrl = some text)
      (hfault : Provider.ofText text = .error fault) :
      FederatedSetting settings (.error fault)
  /-- The provider has an endpoint. -/
  | on {text : String} {provider : Provider} (hon : settings.auth.federated = true)
      (htext : settings.auth.providerUrl = some text)
      (hprovider : Provider.ofText text = .ok provider) :
      FederatedSetting settings (.ok [.federated provider settings.server.origin])

theorem federatedMechanism_apply (settings : Settings) :
    FederatedSetting settings (federatedMechanism settings) := by
  rw [federatedMechanism]
  split
  · next text hon htext =>
      cases hprovider : Provider.ofText text with
      | error fault => exact .unreadable hon htext hprovider
      | ok provider => exact .on hon htext hprovider
  · next hnever =>
      apply FederatedSetting.off
      cases hon : settings.auth.federated with
      | false => exact Or.inl rfl
      | true =>
          refine Or.inr (Option.eq_none_iff_forall_ne_some.mpr ?_)
          exact fun text htext => hnever text hon htext

/-- Only a provider whose URL cannot be read keeps the federated mechanism from being made. -/
theorem federatedMechanism_eq_error_iff {settings : Settings} {fault : Fault} :
    federatedMechanism settings = .error fault ↔
      settings.auth.federated = true ∧ ∃ text, settings.auth.providerUrl = some text ∧
        Provider.ofText text = .error fault := by
  constructor
  · intro h
    have hmade := federatedMechanism_apply settings
    rw [h] at hmade
    cases hmade with
    | unreadable hon htext hfault => exact ⟨hon, _, htext, hfault⟩
  · rintro ⟨hon, text, htext, hfault⟩
    simp only [federatedMechanism, hon, htext, hfault]
    rfl

/-- The federated mechanism of settings is the only one that reading them gives. -/
theorem federatedMechanism_cases {settings : Settings} {mechanisms : List Mechanism}
    (h : federatedMechanism settings = .ok mechanisms) :
    mechanisms = [] ∨ ∃ provider origin, mechanisms = [.federated provider origin] := by
  have hmade := federatedMechanism_apply settings
  rw [h] at hmade
  cases hmade with
  | off => exact Or.inl rfl
  | on => exact Or.inr ⟨_, _, rfl⟩

/-- The gateway of settings with a federated mechanism or without one. -/
def withFederated (settings : Settings) (directory : Option Directory.Client)
    (federated : List Mechanism) : Gateway :=
  { provisioner := .ofSettings settings.auth
    groups := ⟨settings.auth.federated, directory⟩
    mechanisms := federated ++ if settings.auth.kerberosEnabled then [.directory] else [] }

/-- Nothing but the federated mechanism keeps settings from giving a gateway. -/
theorem ofSettings_eq_map (settings : Settings) (directory : Option Directory.Client) :
    ofSettings settings directory =
      (federatedMechanism settings).map (withFederated settings directory) := by
  rw [ofSettings]
  cases federatedMechanism settings <;> rfl

theorem ofSettings_eq_error_iff {settings : Settings} {directory : Option Directory.Client}
    {fault : Fault} :
    ofSettings settings directory = .error fault ↔ federatedMechanism settings = .error fault := by
  rw [ofSettings_eq_map]
  cases federatedMechanism settings <;> simp [Except.map]

theorem ofSettings_eq_ok_iff {settings : Settings} {directory : Option Directory.Client}
    {gateway : Gateway} :
    ofSettings settings directory = .ok gateway ↔ ∃ federated,
      federatedMechanism settings = .ok federated ∧
        withFederated settings directory federated = gateway := by
  rw [ofSettings_eq_map]
  cases federatedMechanism settings <;> simp [Except.map]

/-- A gateway built from settings has the federated mechanism, if at all, before
the Kerberos one. -/
theorem ofSettings_mechanisms {settings : Settings} {directory : Option Directory.Client}
    {gateway : Gateway} (h : ofSettings settings directory = .ok gateway) :
    ∃ first second : List Mechanism, gateway.mechanisms = first ++ second ∧
      (first = [] ∨ ∃ provider origin, first = [.federated provider origin]) ∧
      (second = [] ∨ second = [.directory]) := by
  obtain ⟨first, hfirst, rfl⟩ := ofSettings_eq_ok_iff.mp h
  refine ⟨first, _, rfl, federatedMechanism_cases hfirst, ?_⟩
  split
  · exact Or.inr rfl
  · exact Or.inl rfl

section OfSettings

variable {settings : Settings} {directory : Option Directory.Client} {gateway : Gateway}

/-- The parts of a gateway are taken from the same settings. -/
theorem ofSettings_parts (h : ofSettings settings directory = .ok gateway) :
    gateway.provisioner = .ofSettings settings.auth ∧
      gateway.groups = ⟨settings.auth.federated, directory⟩ ∧
      gateway.isEnabled .directory = settings.auth.kerberosEnabled := by
  obtain ⟨first, hfirst, rfl⟩ := ofSettings_eq_ok_iff.mp h
  refine ⟨rfl, rfl, ?_⟩
  -- the federated mechanism, if any, is of the other kind
  rcases federatedMechanism_cases hfirst with rfl | ⟨provider, origin, rfl⟩ <;>
    cases hkerberos : settings.auth.kerberosEnabled <;>
    simp [isEnabled, mechanism?, withFederated, Mechanism.kind, hkerberos]

/-- The federated mechanism of a gateway is the one of its settings. -/
theorem ofSettings_federated (h : ofSettings settings directory = .ok gateway) :
    ((settings.auth.federated = false ∨ settings.auth.providerUrl = none) ∧
        gateway.mechanism? .federated = none) ∨
      ∃ text provider, settings.auth.federated = true ∧ settings.auth.providerUrl = some text ∧
        Provider.ofText text = .ok provider ∧
        gateway.mechanism? .federated = some (.federated provider settings.server.origin) := by
  obtain ⟨first, hfirst, rfl⟩ := ofSettings_eq_ok_iff.mp h
  have hmade := federatedMechanism_apply settings
  rw [hfirst] at hmade
  cases hmade with
  | off hoff =>
      refine Or.inl ⟨hoff, ?_⟩
      cases hkerberos : settings.auth.kerberosEnabled <;>
        simp [mechanism?, withFederated, Mechanism.kind, hkerberos]
  | on hon htext hprovider =>
      refine Or.inr ⟨_, _, hon, htext, hprovider, ?_⟩
      simp [mechanism?, withFederated, Mechanism.kind]

/-- Markers of enabled mechanisms are consulted in the order of the kinds. -/
theorem marker?_eq_findSome? (h : ofSettings settings directory = .ok gateway)
    (session : Session) : gateway.marker? session =
      MechanismKind.all.findSome? fun kind =>
        if gateway.isEnabled kind then (session.marker? kind).map fun marker => (kind, marker)
        else none := by
  obtain ⟨first, second, hm, hfirst, hsecond⟩ := ofSettings_mechanisms h
  -- which of the two markers are set, and which of the two mechanisms are on
  cases hfed : session.marker? .federated <;> cases hdir : session.marker? .directory <;>
    rcases hfirst with rfl | ⟨provider, origin, rfl⟩ <;> rcases hsecond with rfl | rfl <;>
    simp [marker?, isEnabled, mechanism?, hm, MechanismKind.all, Mechanism.kind, hfed, hdir]

/-- The identity of a session decides. -/
theorem marker?_of_identity (h : ofSettings settings directory = .ok gateway)
    {session : Session} {identity : String}
    (hidentity : gateway.identity? session = some identity) :
    gateway.marker? session = some (.federated, identity) := by
  obtain ⟨hon, hmarker⟩ := identity?_eq_some_iff.mp hidentity
  rw [marker?_eq_findSome? h]
  simp [MechanismKind.all, hon, hmarker]

/-- A session of nobody has no identity. -/
theorem identity?_eq_none (h : ofSettings settings directory = .ok gateway) {session : Session}
    (hnone : gateway.marker? session = none) : gateway.identity? session = none := by
  cases hidentity : gateway.identity? session with
  | none => rfl
  | some identity =>
      rw [marker?_of_identity h hidentity] at hnone
      cases hnone

/-- A federated marker decides. -/
theorem marker?_put_federated (h : ofSettings settings directory = .ok gateway)
    (henabled : gateway.isEnabled .federated = true) (session : Session) {marker : String}
    (hmarker : marker ≠ "") :
    gateway.marker? (session.put MechanismKind.federated.sessionKey marker) =
      some (.federated, marker) := by
  refine marker?_of_identity h (identity?_eq_some_iff.mpr ⟨henabled, ?_⟩)
  simp [marker?_put _ _ _ hmarker]

/-- Without an identity the Kerberos marker decides, while Kerberos login is on. -/
theorem marker?_of_identity_none (h : ofSettings settings directory = .ok gateway)
    {session : Session} (hnone : gateway.identity? session = none) :
    gateway.marker? session =
      if gateway.isEnabled .directory then
        (session.marker? .directory).map fun marker => (.directory, marker)
      else none := by
  rw [identity?] at hnone
  rw [marker?_eq_findSome? h]
  simp only [MechanismKind.all, List.findSome?_cons, List.findSome?_nil]
  cases hon : gateway.isEnabled .directory <;> cases hmarker : session.marker? .directory <;>
    split at hnone <;> simp_all

/-- A Kerberos marker decides in a session without an identity. -/
theorem marker?_put_directory (h : ofSettings settings directory = .ok gateway)
    (henabled : gateway.isEnabled .directory = true) {session : Session}
    (hnone : gateway.identity? session = none) {marker : String} (hmarker : marker ≠ "") :
    gateway.marker? (session.put MechanismKind.directory.sessionKey marker) =
      some (.directory, marker) := by
  have hkept :
      gateway.identity? (session.put MechanismKind.directory.sessionKey marker) = none := by
    rw [identity?_put_directory, hnone]
  rw [marker?_of_identity_none h hkept, if_pos henabled, marker?_put _ _ _ hmarker, if_pos rfl]
  rfl

/-- A session without markers names nobody. -/
theorem marker?_eq_none (h : ofSettings settings directory = .ok gateway) {session : Session}
    (hnone : ∀ kind, session.marker? kind = none) : gateway.marker? session = none := by
  rw [marker?_eq_findSome? h]
  simp [hnone]

end OfSettings

/-! ## A gateway with both mechanisms and one user -/

/-- Settings with both ways to log in, and a provider on the same machine. -/
def bothWays : Settings :=
  { auth := { federated := true, providerUrl := some "http://[::1]/", kerberos := .flag true }
    server := ⟨"localhost", 8000, "", none⟩
    logLevel := "info" }

/-- The gateway of these settings. -/
def bothWaysGateway : Gateway :=
  { provisioner := .ofSettings bothWays.auth
    groups := ⟨true, none⟩
    mechanisms :=
      [.federated
        ⟨{ scheme := "http"
           authority := some ⟨"", none, some (.ipv6 [0, 0, 0, 0, 0, 0, 0, 1]), none⟩
           path := .segments [""], query := none, fragment := none }⟩ "http://localhost:8000",
        .directory] }

/-- A directory that knows nobody. -/
def nobodyScript : Directory.Script := ⟨[], fun _ => .ok []⟩

/-- The settings give this gateway. -/
theorem ofSettings_bothWays : ofSettings bothWays none = .ok bothWaysGateway := rfl

/-- A store whose only user is Jane. -/
def janeStore : Store :=
  Store.empty.insert ⟨⟨"1"⟩, 10⟩ ⟨"jane", "jane@example.org", none⟩

theorem wellFormed_janeStore : janeStore.WellFormed :=
  Store.wellFormed_insert Store.wellFormed_empty rfl rfl

theorem named_janeStore : janeStore.Named :=
  Store.named_insert Store.named_empty (by decide)

/-- A request with `marker` under the key of `kind`, over the store of Jane. -/
def markedRequest (kind : MechanismKind) (marker : String) : Context Store :=
  { store := janeStore, session := Table.empty.put kind.sessionKey marker
    directory := nobodyScript, reply := none, trace := .empty }

end SignOn.Gateway
