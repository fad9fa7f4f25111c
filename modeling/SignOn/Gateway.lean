import SignOn.Groups
import SignOn.Mechanism
import SignOn.Provider.Verify
import SignOn.Provisioner
import SignOn.Username

/-!
# The sign-on gateway

One entry point for login, logout and the question who is logged in. A session
is logged in when the marker of an enabled mechanism names a user of the store;
the marker of a federated login is consulted first.
-/

set_option autoImplicit false

namespace SignOn

/-- The gateway of one service. -/
structure Gateway where
  provisioner : Provisioner
  groups : GroupAuthority
  /-- Mechanisms that are switched on, the federated one first. -/
  mechanisms : List Mechanism
deriving Repr, DecidableEq

namespace Gateway

variable {σ : Type} [UserStore σ]

/-- Head of the text of every refusal of a Kerberos login. -/
def kerberosErrorHead : String := "Can't log-in using GSSAPI: "

/-! ## Construction -/

/-- The federated mechanism, when the settings switch it on. -/
def federatedMechanism (settings : Settings) : Except Fault (List Mechanism) :=
  match settings.auth.federated, settings.auth.providerUrl with
  | true, some url => do
    let provider ← Provider.ofText url
    return [.federated provider settings.server.origin]
  | _, _ => .ok []

/-- The gateway of the settings, with a directory. -/
def ofSettings (settings : Settings) (directory : Option Directory.Client) :
    Except Fault Gateway := do
  let federated ← federatedMechanism settings
  return {
    provisioner := .ofSettings settings.auth
    groups := ⟨settings.auth.federated, directory⟩
    mechanisms := federated ++ (if settings.auth.kerberosEnabled then [.directory] else []) }

/-- The enabled mechanism of a kind. -/
def mechanism? (gateway : Gateway) (kind : MechanismKind) : Option Mechanism :=
  gateway.mechanisms.find? (·.kind = kind)

/-- Whether the mechanism of a kind is enabled. -/
def isEnabled (gateway : Gateway) (kind : MechanismKind) : Bool :=
  (gateway.mechanism? kind).isSome

/-! ## Who is logged in -/

/-- The first enabled mechanism with a marker in the session, and the marker. -/
def marker? (gateway : Gateway) (session : Session) : Option (MechanismKind × String) :=
  gateway.mechanisms.findSome? fun mechanism =>
    (session.marker? mechanism.kind).map fun marker => (mechanism.kind, marker)

/-- The username a marker names. -/
def nameOfMarker (gateway : Gateway) : MechanismKind × String → String
  | (.federated, identity) => gateway.provisioner.nameOf identity
  | (.directory, name) => name

/-- The log of `nameOfMarker`. -/
def markerEvents (gateway : Gateway) : MechanismKind × String → List Event
  | (.federated, identity) => gateway.provisioner.nameEvents identity
  | (.directory, _) => []

/-- The username the session is marked with. -/
def sessionName? (gateway : Gateway) (session : Session) : Option String :=
  (gateway.marker? session).map gateway.nameOfMarker

/-- The log of `sessionName?`. -/
def sessionEvents (gateway : Gateway) (session : Session) : List Event :=
  (gateway.marker? session).elim [] gateway.markerEvents

omit [UserStore σ] in
/-- The username the session is marked with. -/
def currentName (gateway : Gateway) : Call σ (Option String) := do
  let session ← Call.session
  Call.log (gateway.sessionEvents session)
  return gateway.sessionName? session

/-- The user who is logged in. A marker that names no user counts as none. -/
def currentUser (gateway : Gateway) : Call σ (Option User) := do
  match ← gateway.currentName with
  | none => return none
  | some name =>
    match ← Call.onStore (UserStore.findByName name) with
    | some user => return some user
    | none =>
      Call.log [.unknownSessionUser name]
      return none

/-! ## Starting and ending a login -/

/-- Where to send the browser to log in: a session that is logged in goes on to
`next`. -/
def login (gateway : Gateway) (kind : MechanismKind) (next : String) : Call σ String := do
  match ← gateway.currentUser with
  | some _ => return next
  | none =>
    match gateway.mechanism? kind with
    | some mechanism => return mechanism.loginUrl next
    | none => Call.fail .noMechanism

omit [UserStore σ] in
/-- Clears every marker of the session. -/
def logout (gateway : Gateway) : Call σ Unit := do
  let name ← gateway.currentName
  Call.changeSession Session.clearAll
  Call.log (name.elim [] fun name => [.loggedOut name])

/-! ## Completing a login -/

/-- The user behind a login, created when needed. -/
def userBehind (gateway : Gateway) (moment : Moment) (claims : Option Claims)
    (username : Option String) : Call σ User :=
  match claims.filter fun _ => gateway.isEnabled .federated,
      username.filter fun _ => gateway.isEnabled .directory with
  | some claims, _ => gateway.provisioner.ofClaims moment claims
  | none, some username => gateway.provisioner.ofUsername moment username
  | none, none => Call.fail .noMechanism

omit [UserStore σ] in
/-- Takes an assertion to the provider for confirmation; its claims. -/
def verify (gateway : Gateway) (params : Assertion.Params) : Call σ Claims :=
  match gateway.mechanism? .federated with
  | some (.federated provider origin) => provider.verify (Mechanism.returnBase origin) params
  | _ => Call.fail .noMechanism

/-- Saves the groups of a login on its user and marks the session. -/
def settle (moment : Moment) (kind : MechanismKind) (user : User) (groups : GroupSet)
    (marker : User → String) : Call σ User := do
  let saved ← Call.onStore (UserStore.save moment.time { user with groups := some groups })
  Call.changeSession fun session => session.put kind.sessionKey (marker saved)
  Call.log [.loggedIn saved.name saved.role]
  return saved

/-- Finishes a federated login with confirmed claims. -/
def completeFederated (gateway : Gateway) (moment : Moment) (claims : Claims) : Call σ User := do
  let name := gateway.provisioner.nameOf claims.identityUrl
  Call.log (gateway.provisioner.nameEvents claims.identityUrl)
  if gateway.provisioner.isAllowed name then
    let user ← gateway.userBehind moment (some claims) none
    let groups ← gateway.groups.groups (some claims) none
    settle moment .federated user groups fun _ => claims.identityUrl
  else
    Call.log [.loginRefused name]
    Call.fail (.accessRestricted ("User '" ++ name ++ "' is not allowed"))

/-- The user bound to a principal, or bound now. -/
def boundUser (gateway : Gateway) (moment : Moment) (principal username : String) :
    Call σ User := do
  match ← Call.onStore (UserStore.findBinding username) with
  | some binding =>
    match ← Call.onStore (UserStore.findById binding.user) with
    | some user => return user
    | none => Call.fail (.invariant "krb5 binding refers to a missing user")
  | none =>
    let user ← gateway.userBehind moment none (some username)
    Call.log [.principalBound principal user.name]
    let _ ← Call.onStore (UserStore.bind ⟨username, user.id⟩)
    return user

/-- Logs in a principal that the server in front proved. -/
def loginPrincipal (gateway : Gateway) (moment : Moment) (principal : String) : Call σ User :=
  match Username.ofPrincipal? principal with
  | none => Call.fail (.invalidUsername ("invalid krb5 username: " ++ principal))
  | some username => do
    let user ← gateway.boundUser moment principal username
    let groups ← gateway.groups.groups none (some username)
    settle moment .directory user groups User.name

/-- Logs in the principal of a request, unless the session is logged in. -/
def tryKerberos (gateway : Gateway) (moment : Moment) (remoteUser : Option String) :
    Call σ User :=
  if gateway.isEnabled .directory then do
    match ← gateway.currentUser with
    | some user =>
      Call.log [.alreadyLoggedIn user.name]
      return user
    | none =>
      match remoteUser.filter (· ≠ "") with
      | none =>
        Call.fail (.accessRestricted "Kerberos authentication failed (no credentials provided)")
      | some principal => gateway.loginPrincipal moment principal
  else Call.fail .noMechanism

/-- The fault of a Kerberos login as the user reads it. -/
def kerberosFault : Fault → Fault
  | .accessRestricted text => .accessRestricted (kerberosErrorHead ++ text)
  | .invalidUsername text => .invalidUsername (kerberosErrorHead ++ text)
  | fault => fault

/-- Finishes a Kerberos login. -/
def completeKerberos (gateway : Gateway) (moment : Moment) (remoteUser : Option String) :
    Call σ User :=
  Call.mapFault kerberosFault (gateway.tryKerberos moment remoteUser)

end Gateway

end SignOn
