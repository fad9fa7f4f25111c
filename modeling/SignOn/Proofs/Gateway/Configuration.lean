import SignOn.Proofs.Gateway.Availability
import SignOn.Proofs.Gateway.Session

/-!
# What checked settings make of a gateway

Settings are read in several places: the flag and the URL for the federated mechanism, a switch
or a table for the Kerberos one, the flag alone for the provisioner and for the source of
groups, and the URL once more for the names of identities. Settings that pass the check leave
these readings no room to differ. Unless the URL of the provider cannot be read, they give a
gateway that `Reflects` them, and a login of this gateway fails for want of a mechanism exactly
where they leave its kind off (`ofSettings_of_validate`).
-/

set_option autoImplicit false

namespace SignOn

/-! ## Settings that pass the check -/

namespace Settings

variable {settings : Settings}

/-- Whether the login of a kind is switched on. -/
def switchesOn (settings : Settings) : MechanismKind → Bool
  | .federated => settings.auth.federated
  | .directory => settings.auth.kerberosEnabled

/-- Checked settings name a provider where federated login is on. -/
theorem providerUrl_ne_none (h : settings.validate = .ok ())
    (hon : settings.auth.federated = true) : settings.auth.providerUrl ≠ none := by
  obtain ⟨hprovider, -⟩ := (validate_eq_ok_iff settings).mp h
  intro hnone
  simp [lacksProvider, hon, hnone] at hprovider

/-- Checked settings switch on a login. -/
theorem exists_switchesOn (h : settings.validate = .ok ()) :
    ∃ kind, settings.switchesOn kind = true := by
  obtain ⟨-, hmechanism, -⟩ := (validate_eq_ok_iff settings).mp h
  cases hon : settings.auth.federated with
  | true => exact ⟨.federated, hon⟩
  | false =>
      refine ⟨.directory, ?_⟩
      simpa [lacksMechanism, switchesOn, hon] using hmechanism

end Settings

/-! ## Providers -/

namespace Provider

/-- A text names no provider when it is no URL. -/
theorem ofText_eq_error_iff {text : String} {fault : Fault} :
    ofText text = .error fault ↔ ∃ cause, Url.parse text = .error cause ∧
      fault = .invalidConfiguration
        ("invalid OpenID provider URL '" ++ text ++ "': " ++ cause.message) := by
  rw [ofText]
  cases Url.parse text with
  | ok url => simp
  | error cause => simp [eq_comm]

/-- The endpoint of a provider is the URL it is written as. -/
theorem parse_of_ofText {text : String} {provider : Provider} (h : ofText text = .ok provider) :
    Url.parse text = .ok provider.url := by
  rw [ofText] at h
  split at h
  · next url hurl =>
      obtain rfl := Except.ok.inj h
      exact hurl
  · cases h

end Provider

/-- Identities are named after the host of the provider. -/
theorem Provisioner.providerHostOf_eq {auth : AuthSettings} {text : String} {provider : Provider}
    (htext : auth.providerUrl = some text) (hprovider : Provider.ofText text = .ok provider) :
    providerHostOf auth = provider.host? := by
  rw [providerHostOf, htext, Option.bind_some, Provider.parse_of_ofText hprovider]
  rfl

namespace Gateway

/-! ## The parts of a gateway -/

/-- The parts of a gateway are of one mind with the settings. -/
structure Reflects (gateway : Gateway) (settings : Settings) : Prop where
  isEnabled_eq : ∀ kind, gateway.isEnabled kind = settings.switchesOn kind
  exists_enabled : ∃ kind, gateway.isEnabled kind = true
  provisioner_federated : gateway.provisioner.federated = settings.auth.federated
  groups_federated : gateway.groups.federated = settings.auth.federated
  /-- Identities are named after the host of the provider that confirms them. -/
  sameHost : gateway.isEnabled .federated = true → ∃ provider origin,
    gateway.mechanism? .federated = some (.federated provider origin) ∧
      gateway.provisioner.providerHost = provider.host?

section OfSettings

variable {settings : Settings} {directory : Option Directory.Client} {gateway : Gateway}

/-- Settings fail to give a gateway only through the URL of the provider. -/
theorem ofSettings_eq_error_iff_of_url {fault : Fault} :
    ofSettings settings directory = .error fault ↔
      settings.auth.federated = true ∧ ∃ text cause, settings.auth.providerUrl = some text ∧
        Url.parse text = .error cause ∧ fault = .invalidConfiguration
          ("invalid OpenID provider URL '" ++ text ++ "': " ++ cause.message) := by
  simp only [ofSettings_eq_error_iff, federatedMechanism_eq_error_iff,
    Provider.ofText_eq_error_iff, exists_and_left]

/-- A gateway of checked settings enables what they switch on. -/
theorem isEnabled_eq_switchesOn (hvalid : settings.validate = .ok ())
    (h : ofSettings settings directory = .ok gateway) (kind : MechanismKind) :
    gateway.isEnabled kind = settings.switchesOn kind := by
  cases kind with
  | directory =>
      obtain ⟨-, -, hkerberos⟩ := ofSettings_parts h
      exact hkerberos
  | federated =>
      rcases ofSettings_federated h with ⟨hoff, hnone⟩ | ⟨text, provider, hon, -, -, hmechanism⟩
      -- a flag without a URL does not pass the check
      · have hflag : settings.auth.federated = false := by
          cases hon : settings.auth.federated with
          | false => rfl
          | true => simp [hon, Settings.providerUrl_ne_none hvalid hon] at hoff
        rw [isEnabled, hnone, Settings.switchesOn, hflag]
        rfl
      · rw [isEnabled, hmechanism, Settings.switchesOn, hon]
        rfl

theorem reflects_of_ofSettings (hvalid : settings.validate = .ok ())
    (h : ofSettings settings directory = .ok gateway) : gateway.Reflects settings where
  isEnabled_eq := isEnabled_eq_switchesOn hvalid h
  exists_enabled := by
    obtain ⟨kind, hon⟩ := Settings.exists_switchesOn hvalid
    exact ⟨kind, (isEnabled_eq_switchesOn hvalid h kind).trans hon⟩
  provisioner_federated := by
    rw [(ofSettings_parts h).1]
    rfl
  groups_federated := by rw [(ofSettings_parts h).2.1]
  sameHost := by
    intro hon
    rcases ofSettings_federated h with
      ⟨-, hnone⟩ | ⟨text, provider, -, htext, hprovider, hmechanism⟩
    · rw [isEnabled, hnone] at hon
      cases hon
    · refine ⟨provider, _, hmechanism, ?_⟩
      rw [(ofSettings_parts h).1]
      exact Provisioner.providerHostOf_eq htext hprovider

end OfSettings

/-! ## The calls of a gateway -/

section Calls

variable {σ : Type} [UserStore σ]

/-- The browser is sent where a mechanism of the kind asks for. -/
def Redirects (gateway : Gateway) (kind : MechanismKind) (next : String) (context : Context σ) :
    Prop :=
  ∃ mechanism ∈ gateway.mechanisms, mechanism.kind = kind ∧
    (gateway.login kind next context).1 = .ok (mechanism.loginUrl next)

/-- A session of nobody is redirected by a mechanism that is on, and refused without one. -/
theorem redirects_or_refused {gateway : Gateway} {context : Context σ}
    (hnobody : (gateway.currentUser context).1 = .ok none) (kind : MechanismKind) (next : String) :
    (gateway.isEnabled kind = true ∧ gateway.Redirects kind next context) ∨
      (gateway.isEnabled kind = false ∧
        (gateway.login kind next context).1 = .error .noMechanism) := by
  have hlogin := login_of_nobody hnobody kind next
  cases hmechanism : gateway.mechanism? kind with
  | none =>
      rw [hmechanism] at hlogin
      exact Or.inr ⟨by rw [isEnabled, hmechanism]; rfl, hlogin⟩
  | some mechanism =>
      rw [hmechanism] at hlogin
      have hkind : mechanism.kind = kind := by simpa using List.find?_some hmechanism
      exact Or.inl ⟨by rw [isEnabled, hmechanism]; rfl, mechanism,
        List.mem_of_find?_eq_some hmechanism, hkind, hlogin⟩

end Calls

/-- Calls over stores of type `σ` miss a mechanism exactly where the settings leave it off. -/
structure Follows (gateway : Gateway) (settings : Settings) (σ : Type) [UserStore σ] : Prop where
  redirects_iff : ∀ context : Context σ, (gateway.currentUser context).1 = .ok none →
    ∀ kind next, gateway.Redirects kind next context ↔ settings.switchesOn kind = true
  refused_iff : ∀ context : Context σ, (gateway.currentUser context).1 = .ok none →
    ∀ kind next, (gateway.login kind next context).1 = .error .noMechanism ↔
      settings.switchesOn kind = false
  federated_iff : ∀ moment claims (context : Context σ),
    (gateway.completeFederated moment claims context).1 = .error .noMechanism ↔
      settings.switchesOn .federated = false ∧
        gateway.provisioner.isAllowed (gateway.provisioner.nameOf claims.identityUrl) = true
  kerberos_iff : ∀ moment remoteUser (context : Context σ),
    (gateway.completeKerberos moment remoteUser context).1 = .error .noMechanism ↔
      settings.switchesOn .directory = false

/-- A gateway that enables what the settings switch on follows them. -/
theorem follows_of_isEnabled_eq {gateway : Gateway} {settings : Settings}
    (h : ∀ kind, gateway.isEnabled kind = settings.switchesOn kind) (σ : Type) [UserStore σ] :
    gateway.Follows settings σ where
  redirects_iff := by
    intro context hnobody kind next
    rw [← h kind]
    rcases redirects_or_refused hnobody kind next with ⟨hon, hsent⟩ | ⟨hoff, hrefused⟩
    · exact iff_of_true hsent hon
    · refine iff_of_false ?_ (by simp [hoff])
      rintro ⟨mechanism, -, -, hsent⟩
      rw [hrefused] at hsent
      cases hsent
  refused_iff := by
    intro context hnobody kind next
    rw [← h kind]
    rcases redirects_or_refused hnobody kind next with ⟨hon, hsent⟩ | ⟨hoff, hrefused⟩
    · refine iff_of_false ?_ (by simp [hon])
      obtain ⟨mechanism, -, -, hsent⟩ := hsent
      rw [hsent]
      intro hfault
      cases hfault
    · exact iff_of_true hrefused hoff
  federated_iff := by
    intro moment claims context
    rw [← h .federated]
    exact completeFederated_noMechanism_iff moment claims context
  kerberos_iff := by
    intro moment remoteUser context
    rw [← h .directory]
    exact completeKerberos_noMechanism_iff moment remoteUser context

/-- Settings that pass the check give no gateway exactly when federated login is on and the URL
of the provider cannot be read, and the fault says so. Otherwise all parts of the gateway are of
one mind with the settings, and over any store a session of nobody is redirected to log in
exactly by what is switched on, and a login that is switched on is not refused for want of a
mechanism. -/
theorem ofSettings_of_validate {settings : Settings} (h : settings.validate = .ok ())
    (directory : Option Directory.Client) :
    (∀ fault, ofSettings settings directory = .error fault ↔
      settings.auth.federated = true ∧ ∃ text cause, settings.auth.providerUrl = some text ∧
        Url.parse text = .error cause ∧ fault = .invalidConfiguration
          ("invalid OpenID provider URL '" ++ text ++ "': " ++ cause.message)) ∧
    ∀ gateway, ofSettings settings directory = .ok gateway →
      gateway.Reflects settings ∧ ∀ (σ : Type) [UserStore σ], gateway.Follows settings σ := by
  refine ⟨fun fault => ofSettings_eq_error_iff_of_url, ?_⟩
  intro gateway hgateway
  have hreflects := reflects_of_ofSettings h hgateway
  exact ⟨hreflects, fun σ _ => follows_of_isEnabled_eq hreflects.isEnabled_eq σ⟩

/-- Both ways to log in, with a secret that is long enough and the provider at `url`. -/
def checkedWays (url : String) : Settings :=
  { bothWays with
    auth := { bothWays.auth with providerUrl := some url }
    server := { bothWays.server with sessionSecret := String.ofList (List.replicate 64 's') } }

theorem validate_checkedWays {url : String} (h : url ≠ "") :
    (checkedWays url).validate = .ok () := by
  have hprovider : (checkedWays url).lacksProvider = false := by
    simp [checkedWays, Settings.lacksProvider, h]
  have hsize : Settings.minSecretSize ≤
      Text.Utf8.size (String.ofList (List.replicate 64 's')) := by decide +kernel
  have hsecret : (checkedWays url).lacksSecret = false := decide_eq_false (Nat.not_lt.mpr hsize)
  exact (Settings.validate_eq_ok_iff _).mpr ⟨hprovider, rfl, hsecret⟩

/-- With a URL that can be read both logins are there, also for a session that is marked with
an identity of nobody; with one that has no scheme there is no gateway. -/
theorem follows_checkedWays :
    let before := markedRequest .federated "http://[::1]/ghost"
    (checkedWays "http://[::1]/").validate = .ok () ∧
      ofSettings (checkedWays "http://[::1]/") none = .ok bothWaysGateway ∧
      bothWaysGateway.Reflects (checkedWays "http://[::1]/") ∧
      (bothWaysGateway.currentUser before).1 = .ok none ∧
      (∀ kind, bothWaysGateway.Redirects kind "/coprs/" before) ∧
      (checkedWays "id.example.org").validate = .ok () ∧
      ofSettings (checkedWays "id.example.org") none = .error (.invalidConfiguration
        "invalid OpenID provider URL 'id.example.org': relative URL without a base") := by
  intro before
  have hvalid : (checkedWays "http://[::1]/").validate = .ok () := validate_checkedWays (by decide)
  have hgateway : ofSettings (checkedWays "http://[::1]/") none = .ok bothWaysGateway := rfl
  have hnobody : (bothWaysGateway.currentUser before).1 = .ok none := rfl
  obtain ⟨-, hmade⟩ := ofSettings_of_validate hvalid none
  obtain ⟨hreflects, hfollows⟩ := hmade bothWaysGateway hgateway
  have hredirects (kind : MechanismKind) : bothWaysGateway.Redirects kind "/coprs/" before := by
    apply ((hfollows Store).redirects_iff before hnobody kind "/coprs/").mpr
    cases kind <;> rfl
  have hunread : (checkedWays "id.example.org").validate = .ok () :=
    validate_checkedWays (by decide)
  have hparse : Url.parse "id.example.org" = .error .relative := rfl
  obtain ⟨hfails, -⟩ := ofSettings_of_validate hunread none
  exact ⟨hvalid, hgateway, hreflects, hnobody, hredirects, hunread,
    (hfails _).mpr ⟨rfl, "id.example.org", .relative, rfl, hparse, rfl⟩⟩

end Gateway

end SignOn
