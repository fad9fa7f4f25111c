import SignOn.Fault
import SignOn.Text.Split
import SignOn.Text.Utf8

/-!
# Settings

What the service is configured with, and the conditions that settings must meet
together. `Settings.validate_eq_ok_iff` states these conditions.
-/

set_option autoImplicit false

namespace SignOn

/-- Kerberos login: a switch, or a table with the domain of new users' mail. -/
inductive KerberosSetting where
  | flag (enabled : Bool)
  | table (emailDomain : String)
deriving Repr, DecidableEq

/-- How often and how fast a search is repeated while the directory is down. -/
structure RetryPolicy where
  /-- Most attempts; `none` repeats until the directory answers. -/
  maxAttempts : Option UInt32 := none
  delayMs : UInt64 := 500
deriving Repr, DecidableEq

/-- Settings of the login. -/
structure AuthSettings where
  /-- Federated login, the primary mechanism. -/
  federated : Bool := false
  providerUrl : Option String := none
  kerberos : KerberosSetting := .flag false
  /-- Header in which the server in front hands over the Kerberos principal. -/
  remoteUserHeader : String := "X-Remote-User"
  ldapUrl : Option String := none
  ldapBase : Option String := none
  retry : RetryPolicy := {}
  useAllowList : Bool := false
  allowed : List String := []
deriving Repr, DecidableEq

/-- Settings of the HTTP server. -/
structure ServerSettings where
  host : String
  port : UInt16
  sessionSecret : String
  publicUrl : Option String
deriving Repr, DecidableEq

/-- All settings. -/
structure Settings where
  auth : AuthSettings
  server : ServerSettings
  logLevel : String
deriving Repr, DecidableEq

namespace AuthSettings

/-- Whether Kerberos login is enabled. -/
def kerberosEnabled (auth : AuthSettings) : Bool :=
  match auth.kerberos with
  | .flag enabled => enabled
  | .table _ => true

/-- Mail domain of users a Kerberos login creates. -/
def emailDomain? (auth : AuthSettings) : Option String :=
  match auth.kerberos with
  | .flag _ => none
  | .table domain => if domain = "" then none else some domain

/-- URL and search base of the directory, when both are set. -/
def ldap? (auth : AuthSettings) : Option (String × String) := do
  let url ← auth.ldapUrl.filter (· ≠ "")
  let base ← auth.ldapBase.filter (· ≠ "")
  return (url, base)

end AuthSettings

namespace ServerSettings

/-- Origin the server listens on. -/
def serveOrigin (server : ServerSettings) : String :=
  "http://" ++ server.host ++ ":" ++ toString server.port.toNat

/-- Origin browsers see, without a slash at its end. -/
def origin (server : ServerSettings) : String :=
  match server.publicUrl with
  | some url => Text.dropEnd '/' url
  | none => server.serveOrigin

end ServerSettings

namespace Settings

/-- Least number of bytes of the secret that signs session cookies. -/
def minSecretSize : Nat := 64

/-- Whether federated login is on without a provider. -/
def lacksProvider (settings : Settings) : Bool :=
  settings.auth.federated && settings.auth.providerUrl.all (· = "")

/-- Whether no way to log in is on. -/
def lacksMechanism (settings : Settings) : Bool :=
  !settings.auth.federated && !settings.auth.kerberosEnabled

/-- Whether the secret of the session cookies is too short. -/
def lacksSecret (settings : Settings) : Bool :=
  Text.Utf8.size settings.server.sessionSecret < minSecretSize

/-- Succeeds when the settings fit together. -/
def validate (settings : Settings) : Except CoreFault Unit :=
  if settings.lacksProvider then
    .error (.configuration "auth.fas_login requires auth.openid_provider_url")
  else if settings.lacksMechanism then
    .error (.configuration "no login mechanism enabled (auth.fas_login or auth.krb5_login)")
  else if settings.lacksSecret then
    .error (.configuration
      ("server.session_secret must be at least " ++ toString minSecretSize ++ " bytes"))
  else .ok ()

theorem validate_eq_ok_iff (settings : Settings) :
    settings.validate = .ok () ↔ settings.lacksProvider = false ∧
      settings.lacksMechanism = false ∧ settings.lacksSecret = false := by
  simp only [validate]
  split
  · simp_all
  · split
    · simp_all
    · split <;> simp_all

end Settings

end SignOn
