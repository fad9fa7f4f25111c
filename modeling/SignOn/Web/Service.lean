import SignOn.Gateway
import SignOn.Web.Failure
import SignOn.Web.Request

/-!
# The web service

Answers to requests. Layers around the pages supply the settings, the gateway,
the session of the request's cookie and the user who is logged in; a page that
misses one of them answers with an internal error.
-/

set_option autoImplicit false

namespace SignOn.Web

/-- Version of the API. -/
def apiVersion : Nat := 3

/-- Body of an answer. -/
inductive Body where
  | version
  | user (user : User)
  | error (message : String)
deriving Repr, DecidableEq

/-- An answer to a request. -/
structure Response where
  status : Nat
  location : Option String
  body : Option Body
  /-- The session that the cookie of the answer holds. -/
  cookie : Option Session
deriving Repr, DecidableEq

/-- Layers around the pages. -/
inductive Layer where
  | settings
  | gateway
  | session
  | currentUser
deriving Repr, DecidableEq

/-- Layers of the whole service, outermost first. -/
def allLayers : List Layer := [.settings, .gateway, .session, .currentUser]

/-- What layers have supplied to a request. -/
structure Supplies where
  settings : Option Settings
  gateway : Option Gateway
  /-- Who is logged in; `some none` for an anonymous session. -/
  currentUser : Option (Option User)

/-- Nothing is supplied yet. -/
def Supplies.none : Supplies := ⟨.none, .none, .none⟩

/-- The service with its settings and its gateway. -/
structure Service where
  settings : Settings
  gateway : Gateway

/-- Answers a request, with the context it leaves. -/
abbrev Handler (σ : Type) : Type := Context σ → Response × Context σ

section Handlers

variable {σ α : Type}

/-- A plain answer. -/
def answer (status : Nat) (body : Option Body) : Response := ⟨status, none, body, none⟩

/-- The log of a failure. -/
def failureEvent (failure : Failure) : Event :=
  if 500 ≤ failure.status then .requestFailed failure.status else .requestRejected failure.status

/-- Answers with a failure. -/
def failed (failure : Failure) : Handler σ := fun context =>
  (answer failure.status (some (.error failure.publicMessage)),
    context.logging [failureEvent failure])

/-- Whether a location can be sent in a header. -/
def isSendable (location : String) : Bool :=
  location.toList.all fun c => (32 ≤ c.toNat && c.toNat ≠ 127) || c = '\t'

/-- Sends the browser to `location`. -/
def redirect (location : String) : Handler σ := fun context =>
  if isSendable location then (⟨302, some location, none, none⟩, context)
  else failed .transport (context.logging [.invalidRedirect location])

/-- Answers with the outcome of a call. -/
def onCall (call : Call σ α) (answered : α → Handler σ) : Handler σ := fun context =>
  match call context with
  | (.ok value, after) => answered value after
  | (.error fault, after) => failed (.service fault) after

/-- The failure of a page that misses the gateway. -/
def gatewayMissing : Failure := .core (.invariant "Auth facade not found in depot")

/-- The failure of a page that misses the settings. -/
def settingsMissing : Failure := .core (.invariant "Configuration not found in depot")

/-- The failure of a page that misses the current user. -/
def currentUserMissing : Failure := .core (.invariant "Current user not found in depot")

/-- Answers with the gateway, if it is supplied. -/
def withGateway (supplies : Supplies) (use : Gateway → Handler σ) : Handler σ :=
  match supplies.gateway with
  | some gateway => use gateway
  | none => failed gatewayMissing

/-- Answers with who is logged in. -/
def authCheck (supplies : Supplies) : Handler σ := fun context =>
  match supplies.currentUser with
  | some (some user) => (answer 200 (some (.user user)), context)
  | some none => failed (.service .notAuthenticated) context
  | none => failed currentUserMissing (context.logging [.currentUserMissing])

variable [UserStore σ]

/-- Starts a login. -/
def startLogin (supplies : Supplies) (kind : MechanismKind) (next : String) : Handler σ :=
  withGateway supplies fun gateway =>
    onCall (gateway.login kind next) fun location context =>
      redirect location (context.logging [.loginStarted kind.text location])

/-- Completes a Kerberos login with the principal in the header. -/
def kerberosLogin (supplies : Supplies) (moment : Moment) (request : Request)
    (answered : User → Handler σ) : Handler σ :=
  match supplies.settings with
  | none => failed settingsMissing
  | some settings =>
    withGateway supplies fun gateway =>
      onCall (gateway.completeKerberos moment (request.header? settings.auth.remoteUserHeader))
        answered

/-- Completes a federated login with the assertion in the query. -/
def callback (supplies : Supplies) (moment : Moment) (request : Request) : Handler σ :=
  withGateway supplies fun gateway =>
    onCall (do
        let claims ← gateway.verify request.params
        gateway.completeFederated moment claims)
      fun _ => redirect request.next

/-- Ends the login of the session. -/
def logout (supplies : Supplies) (request : Request) : Handler σ :=
  withGateway supplies fun gateway =>
    onCall gateway.logout fun _ => redirect request.next

/-- Answers with a page. -/
def serve (supplies : Supplies) (moment : Moment) (request : Request) : Page → Handler σ
  | .apiRoot => fun context => (answer 200 (some .version), context)
  | .kerberosApi =>
    kerberosLogin supplies moment request fun user context =>
      (answer 200 (some (.user user)), context)
  | .kerberosWeb => kerberosLogin supplies moment request fun _ => redirect request.next
  | .authCheck => authCheck supplies
  | .login => startLogin supplies .federated request.next
  | .kerberosLogin => startLogin supplies .directory request.next
  | .callback => callback supplies moment request
  | .logout => logout supplies request

/-- Finds out who is logged in before `rest` answers. -/
def withCurrentUser (supplies : Supplies) (rest : Supplies → Handler σ) : Handler σ :=
  fun context =>
    match supplies.gateway with
    | none => failed gatewayMissing (context.logging [.facadeMissing])
    | some gateway =>
      match gateway.currentUser context with
      | (.error fault, after) => failed (.service fault) (after.logging [.sessionUserFailed])
      | (.ok found, after) =>
        rest { supplies with currentUser := some found }
          (after.logging (found.elim [] fun user => [.sessionUserResolved user.name]))

/-- Loads the session of the cookie before `rest` answers, and puts the session
it leaves into the cookie of the answer. -/
def withSession (cookie : Option Session) (rest : Handler σ) : Handler σ := fun context =>
  let (response, after) := rest { context with session := cookie.getD Table.empty }
  ({ response with cookie := some after.session }, after)

/-- Answers with a page inside layers. -/
def serveInside (service : Service) (moment : Moment) (request : Request) (page : Page) :
    List Layer → Supplies → Handler σ
  | [], supplies => serve supplies moment request page
  | .settings :: layers, supplies =>
    serveInside service moment request page layers
      { supplies with settings := some service.settings }
  | .gateway :: layers, supplies =>
    serveInside service moment request page layers { supplies with gateway := some service.gateway }
  | .session :: layers, supplies =>
    withSession request.cookie (serveInside service moment request page layers supplies)
  | .currentUser :: layers, supplies =>
    withCurrentUser supplies (serveInside service moment request page layers)

/-- Answers a request. Without a session layer the session starts empty. -/
def handle (service : Service) (layers : List Layer) (moment : Moment) (request : Request) :
    Handler σ := fun context =>
  match request.target with
  | .nowhere => (answer 404 none, context)
  | .methodNotAllowed => (answer 405 none, context)
  | .page page =>
    serveInside service moment request page layers .none { context with session := Table.empty }

omit [UserStore σ]

/-- Whether the secret of the settings can sign the cookies of a session layer. -/
def canServe (settings : Settings) (layers : List Layer) : Bool :=
  !layers.contains .session || !settings.lacksSecret

end Handlers

end SignOn.Web
