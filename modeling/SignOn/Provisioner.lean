import SignOn.Assertion
import SignOn.Call
import SignOn.Identity
import SignOn.Settings
import SignOn.Text.Quoted

/-!
# Provisioning

The user record behind an identity that was proved: found by name, or created on
the first login.
-/

set_option autoImplicit false

namespace SignOn

/-- How users are named, admitted and created. -/
structure Provisioner where
  /-- Federated login is on. -/
  federated : Bool
  providerHost : Option String
  emailDomain : Option String
  useAllowList : Bool
  allowed : List String
deriving Repr, DecidableEq

namespace Provisioner

variable {σ : Type} [UserStore σ]

/-- Host of the provider URL in the settings, when it can be read. -/
def providerHostOf (auth : AuthSettings) : Option String :=
  auth.providerUrl.bind fun text => (Url.parse text).toOption.bind Url.hostText?

/-- The provisioner of the settings. -/
def ofSettings (auth : AuthSettings) : Provisioner :=
  { federated := auth.federated
    providerHost := providerHostOf auth
    emailDomain := auth.emailDomain?
    useAllowList := auth.useAllowList
    allowed := auth.allowed }

/-- The username of a federated identity. -/
def nameOf (provisioner : Provisioner) (identity : String) : String :=
  Identity.username identity provisioner.providerHost

/-- The log of `nameOf`. -/
def nameEvents (provisioner : Provisioner) (identity : String) : List Event :=
  match Identity.read identity provisioner.providerHost with
  | .foreign => [.foreignIdentity identity]
  | _ => []

/-- Whether a user may log in. -/
def isAllowed (provisioner : Provisioner) (username : String) : Bool :=
  username ≠ "" && (!provisioner.useAllowList || username ∈ provisioner.allowed)

/-- Inserts a user. -/
def create (moment : Moment) (new : NewUser) : Call σ User := do
  let user ← Call.onStore (UserStore.create moment new)
  Call.log [.userInserted user.id]
  return user

/-- Creates the user of a first federated login, which must tell an e-mail. -/
def createFederated (moment : Moment) (username : String) (claims : Claims) : Call σ User := do
  Call.log [.firstFederatedLogin username]
  match claims.email with
  | none =>
    Call.fail (.validation
      ("identity provider sent no e-mail for new user '" ++ username ++ "'"))
  | some mail => create moment ⟨username, mail, claims.timezone⟩

/-- A record with the attributes for which the provider is the authority. -/
def withClaims (claims : Claims) (user : User) : User :=
  { user with mail := claims.email.getD user.mail, timezone := claims.timezone }

/-- The user of a federated login, with the claims on the record; the caller
saves it. -/
def ofClaims (provisioner : Provisioner) (moment : Moment) (claims : Claims) : Call σ User := do
  let username := provisioner.nameOf claims.identityUrl
  Call.log (provisioner.nameEvents claims.identityUrl)
  let user ←
    match ← Call.onStore (UserStore.findByName username) with
    | some user => pure user
    | none => createFederated moment username claims
  return withClaims claims user

/-- Why a Kerberos ticket does not create a user while federated login is on. -/
def unknownUserText (username : String) : String :=
  "Valid GSSAPI authentication supplied for user '" ++ username ++
    "', but this user doesn't exist in the Kiln build system.  Please log-in " ++
    "using the web-UI (without GSSAPI) first."

/-- Creates the user of a first Kerberos login. -/
def createKerberos (provisioner : Provisioner) (moment : Moment) (username : String) :
    Call σ User :=
  if provisioner.federated then Call.fail (.accessRestricted (unknownUserText username))
  else
    match provisioner.emailDomain with
    | none =>
      Call.fail (.invalidConfiguration "auth.krb5_login.email_domain is required to create users")
    | some domain => do
      Call.log [.kerberosUserCreated username]
      create moment ⟨username, username ++ "@" ++ domain, none⟩

/-- The user of a Kerberos login. -/
def ofUsername (provisioner : Provisioner) (moment : Moment) (username : String) :
    Call σ User := do
  match ← Call.onStore (UserStore.findByName username) with
  | some user => return user
  | none => provisioner.createKerberos moment username

omit [UserStore σ]

/-- Text of a truth value. -/
def flagText (flag : Bool) : String :=
  if flag then "true" else "false"

/-- The provisioner as shown to a developer; the allow-list is not shown. -/
def debugText (provisioner : Provisioner) : String :=
  "Provisioner \x7b fas_login: " ++ flagText provisioner.federated ++
    ", provider_host: " ++ Text.Quoted.optional Text.Quoted.encode provisioner.providerHost ++
    ", email_domain: " ++ Text.Quoted.optional Text.Quoted.encode provisioner.emailDomain ++
    ", use_allowed_users: " ++ flagText provisioner.useAllowList ++ ", .. \x7d"

end Provisioner

end SignOn
