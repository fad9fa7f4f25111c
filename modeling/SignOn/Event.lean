import SignOn.User

/-!
# Log events

Everything the service records while it works, as data. `Event.level`,
`Event.message` and `Event.fields` give the three parts of a log line.
-/

set_option autoImplicit false

namespace SignOn

/-- Importance of an event. -/
inductive Level where
  | trace
  | debug
  | info
  | warn
  | error
deriving Repr, DecidableEq

/-- Name of a level. -/
def Level.text : Level → String
  | trace => "TRACE"
  | debug => "DEBUG"
  | info => "INFO"
  | warn => "WARN"
  | error => "ERROR"

/-- Value of a named field of an event. -/
inductive FieldValue where
  | text (text : String)
  | number (n : Nat)
  | flag (value : Bool)
deriving Repr, DecidableEq

/-- Events of the service. -/
inductive Event where
  | mechanismsConfigured (federated kerberos ldap : Bool)
  | userInserted (id : UserId)
  | unsignedFieldIgnored (field : String)
  | unexpectedProvider (endpoint : String)
  | assertionRejected (identity : String)
  | assertionVerified (identity : String)
  | foreignIdentity (identity : String)
  | firstFederatedLogin (user : String)
  | kerberosUserCreated (user : String)
  | groupSkipped (dn : String)
  | groupsResolved (user : String) (count : Nat)
  | searchAnswered (attempt count : Nat)
  | searchGivenUp (attempt : Nat) (reason : String)
  | searchRetried (attempt : Nat) (reason : String) (delayMs : Nat)
  | searchFailed (reason : String)
  | userNotInDirectory (user : String)
  | loggedOut (user : String)
  | unknownSessionUser (user : String)
  | loginRefused (user : String)
  | loggedIn (user role : String)
  | alreadyLoggedIn (user : String)
  | principalBound (principal user : String)
  | requestFailed (status : Nat)
  | requestRejected (status : Nat)
  | invalidRedirect (location : String)
  | currentUserMissing
  | loginStarted (mechanism location : String)
  | facadeMissing
  | sessionUserResolved (user : String)
  | sessionUserFailed
deriving Repr, DecidableEq

namespace Event

/-- Importance of the event. -/
def level : Event → Level
  | searchAnswered .. | sessionUserResolved .. => .trace
  | mechanismsConfigured .. | userInserted .. | unsignedFieldIgnored .. | assertionVerified ..
  | groupsResolved .. | userNotInDirectory .. | alreadyLoggedIn .. | requestRejected ..
  | loginStarted .. => .debug
  | firstFederatedLogin .. | kerberosUserCreated .. | loggedOut .. | loggedIn ..
  | principalBound .. => .info
  | unexpectedProvider .. | assertionRejected .. | foreignIdentity .. | groupSkipped ..
  | searchRetried .. | unknownSessionUser .. | loginRefused .. => .warn
  | searchGivenUp .. | searchFailed .. | requestFailed .. | invalidRedirect ..
  | currentUserMissing | facadeMissing | sessionUserFailed => .error

/-- Text of the event. -/
def message : Event → String
  | mechanismsConfigured .. => "Authentication mechanisms configured"
  | userInserted .. => "User record inserted"
  | unsignedFieldIgnored .. => "Ignoring unsigned extension field"
  | unexpectedProvider .. => "Assertion from unexpected provider"
  | assertionRejected .. => "Provider rejected assertion"
  | assertionVerified .. => "Assertion verified"
  | foreignIdentity .. =>
    "Identity URL does not belong to the configured provider, using it verbatim"
  | firstFederatedLogin .. => "First login for user, creating a database record"
  | kerberosUserCreated .. => "Creating user from Kerberos login"
  | groupSkipped .. => "Group DN without cn, skipping"
  | groupsResolved .. => "Resolved directory groups"
  | searchAnswered .. => "Directory search answered"
  | searchGivenUp .. => "Directory unavailable, giving up"
  | searchRetried .. => "Directory unavailable, retrying"
  | searchFailed .. => "Directory search failed"
  | userNotInDirectory .. => "User not present in directory"
  | loggedOut .. => "User logged out"
  | unknownSessionUser .. => "Session refers to an unknown user"
  | loginRefused .. => "Login refused, user not allowed"
  | loggedIn user role => role ++ " '" ++ user ++ "' logged in"
  | alreadyLoggedIn .. => "Already logged in"
  | principalBound .. => "First krb5 login, binding principal"
  | requestFailed .. => "Request failed"
  | requestRejected .. => "Request rejected"
  | invalidRedirect .. => "Invalid redirect location"
  | currentUserMissing => "Current user not found in depot"
  | loginStarted .. => "Starting login"
  | facadeMissing => "Failed to get auth facade from depot"
  | sessionUserResolved .. => "Session user resolved"
  | sessionUserFailed => "Failed to resolve session user"

/-- Named values of the event. -/
def fields : Event → List (String × FieldValue)
  | mechanismsConfigured federated kerberos ldap =>
    [("fas_login", .flag federated), ("krb5_login", .flag kerberos), ("ldap", .flag ldap)]
  | userInserted id => [("user_id", .text id.text)]
  | unsignedFieldIgnored field => [("field", .text field)]
  | unexpectedProvider endpoint => [("op_endpoint", .text endpoint)]
  | assertionRejected identity | assertionVerified identity | foreignIdentity identity =>
    [("identity", .text identity)]
  | firstFederatedLogin user | kerberosUserCreated user | userNotInDirectory user
  | loggedOut user | unknownSessionUser user | loginRefused user | alreadyLoggedIn user
  | sessionUserResolved user => [("user", .text user)]
  | groupSkipped dn => [("dn", .text dn)]
  | groupsResolved user count => [("user", .text user), ("group_count", .number count)]
  | searchAnswered attempt count => [("attempt", .number attempt), ("count", .number count)]
  | searchGivenUp attempt reason => [("attempt", .number attempt), ("error", .text reason)]
  | searchRetried attempt reason delayMs =>
    [("attempt", .number attempt), ("error", .text reason), ("delay_ms", .number delayMs)]
  | searchFailed reason => [("error", .text reason)]
  | loggedIn user role => [("user", .text user), ("role", .text role)]
  | principalBound principal user => [("principal", .text principal), ("user", .text user)]
  | requestFailed status | requestRejected status => [("status", .number status)]
  | invalidRedirect location => [("location", .text location)]
  | loginStarted mechanism location =>
    [("mechanism", .text mechanism), ("location", .text location)]
  | currentUserMissing | facadeMissing | sessionUserFailed => []

end Event

end SignOn
