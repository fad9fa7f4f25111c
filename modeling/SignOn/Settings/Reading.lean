import SignOn.Document.Value
import SignOn.Settings
import SignOn.User

/-!
# Reading settings

The settings a document holds, and the group memberships of a serialized user.
-/

set_option autoImplicit false

namespace SignOn

open SignOn.Document

/-- A table with the mail domain of Kerberos users. Its scalars are taken
strictly in every manner. -/
def KerberosSetting.readTable (value : Value) : Option KerberosSetting := do
  match ← fields? strict ["email_domain"] value with
  | [domain] => return .table (← domain.required strict.text?)
  | _ => none

/-- A switch, or a table. -/
def KerberosSetting.read : Value → Option KerberosSetting
  | .flag enabled => some (.flag enabled)
  | value => KerberosSetting.readTable value

/-- A policy for repeated searches. -/
def RetryPolicy.read (manner : Manner) (value : Value) : Option RetryPolicy := do
  match ← fields? manner ["max_attempts", "delay_ms"] value with
  | [maxAttempts, delayMs] =>
    let attempts ← maxAttempts.defaulted none (optional? (below? manner UInt32.size))
    let delay ← delayMs.defaulted 500 (below? manner UInt64.size)
    return { maxAttempts := attempts.map UInt32.ofNat, delayMs := UInt64.ofNat delay }
  | _ => none

/-- Names of the settings of the login, in order. -/
def AuthSettings.names : List String :=
  ["fas_login", "openid_provider_url", "krb5_login", "remote_user_header", "ldap_url",
    "ldap_search_string", "ldap_retry", "use_allowed_users", "allowed_users"]

/-- Settings of the login. -/
def AuthSettings.read (manner : Manner) (value : Value) : Option AuthSettings := do
  let default : AuthSettings := {}
  let text := optional? manner.text?
  match ← fields? manner AuthSettings.names value with
  | [federated, providerUrl, kerberos, header, ldapUrl, ldapBase, retry, useAllowList, allowed] =>
    return {
      federated := ← federated.defaulted default.federated manner.flag?
      providerUrl := ← providerUrl.defaulted none text
      kerberos := ← kerberos.defaulted default.kerberos KerberosSetting.read
      remoteUserHeader := ← header.defaulted default.remoteUserHeader manner.text?
      ldapUrl := ← ldapUrl.defaulted none text
      ldapBase := ← ldapBase.defaulted none text
      retry := ← retry.defaulted {} (RetryPolicy.read manner)
      useAllowList := ← useAllowList.defaulted default.useAllowList manner.flag?
      allowed := ← allowed.defaulted [] (list? manner.text?) }
  | _ => none

/-- Settings of the HTTP server. -/
def ServerSettings.read (manner : Manner) (value : Value) : Option ServerSettings := do
  match ← fields? manner ["host", "port", "session_secret", "public_url"] value with
  | [host, port, secret, publicUrl] =>
    return {
      host := ← host.required manner.text?
      port := UInt16.ofNat (← port.required (below? manner UInt16.size))
      sessionSecret := ← secret.required manner.text?
      publicUrl := ← publicUrl.leftOut (optional? manner.text?) }
  | _ => none

/-- The level in the settings of the log. -/
def Settings.readLevel (manner : Manner) (value : Value) : Option String := do
  match ← fields? manner ["level"] value with
  | [level] => level.required manner.text?
  | _ => none

/-- All settings. -/
def Settings.read (manner : Manner) (value : Value) : Option Settings := do
  match ← fields? manner ["auth", "server", "logging"] value with
  | [auth, server, logging] =>
    return {
      auth := ← auth.defaulted {} (AuthSettings.read manner)
      server := ← server.required (ServerSettings.read manner)
      logLevel := ← logging.required (Settings.readLevel manner) }
  | _ => none

/-- The group memberships of a serialized user. -/
def GroupSet.read (value : Value) : Option GroupSet := do
  match ← fields? strict [GroupSet.sourceKey] value with
  | [names] => return ⟨← names.leftOut (optional? (list? strict.text?))⟩
  | _ => none

end SignOn
