import SignOn.Assertion
import SignOn.Identity
import SignOn.Provider.Message
import SignOn.Route
import SignOn.Url.Query

/-!
# The OpenID provider

The provider's endpoint, the URL that starts a login there, and the conditions
under which its assertions are taken up for confirmation.
-/

set_option autoImplicit false

namespace SignOn

/-- The provider at an endpoint. -/
structure Provider where
  url : Url
deriving Repr, DecidableEq

namespace Provider

open SignOn.Assertion

/-- The provider at the endpoint written as `text`. -/
def ofText (text : String) : Except Fault Provider :=
  match Url.parse text with
  | .ok url => .ok ⟨url⟩
  | .error fault =>
    .error (.invalidConfiguration
      ("invalid OpenID provider URL '" ++ text ++ "': " ++ fault.message))

/-- Host of the endpoint. -/
def host? (provider : Provider) : Option String :=
  provider.url.hostText?

/-- Parameters of the request for a login. -/
def setupPairs (returnTo realm : String) : List (String × String) :=
  [("openid.ns", openIdNamespace),
    ("openid.mode", "checkid_setup"),
    ("openid.claimed_id", identifierSelect),
    ("openid.identity", identifierSelect),
    ("openid.return_to", returnTo),
    ("openid.realm", realm),
    (aliasHead ++ registrationAlias, registrationNamespace),
    ("openid." ++ fieldName registrationAlias "required", Text.joined "," requestedClaims),
    (aliasHead ++ teamsAlias, teamsNamespace),
    ("openid." ++ fieldName teamsAlias "query_membership", allGroupsQuery)]

/-- Where the browser is sent to log in. -/
def setupUrl (provider : Provider) (returnTo realm : String) : String :=
  (provider.url.appendPairs (setupPairs returnTo realm)).text

/-- The endpoint an assertion names. -/
def endpoint? (params : Params) : Option Url :=
  (params.get? "openid.op_endpoint").bind fun text => (Url.parse text).toOption

/-- Whether an assertion is addressed to a URL that begins with `base`. -/
def isAddressedTo (base : String) (params : Params) : Bool :=
  (params.get? "openid.return_to").any (Text.startsWith base)

/-- Succeeds when the assertion names this provider as its issuer. -/
def checkIssuer (provider : Provider) (params : Params) : Except Fault Unit :=
  match endpoint? params with
  | none => .error (.openId "missing openid.op_endpoint")
  | some endpoint =>
    if endpoint.sameEndpoint provider.url then .ok ()
    else .error (.openId ("assertion issued by unexpected provider " ++ endpoint.text))

/-- Succeeds when the assertion is addressed to `base`. -/
def checkAddress (base : String) (params : Params) : Except Fault Unit :=
  if isAddressedTo base params then .ok ()
  else .error (.openId "assertion addressed to another return URL")

/-- Claims of an assertion that may be taken to the provider for confirmation. -/
def accept (provider : Provider) (base : String) (params : Params) : Except Fault Claims := do
  let claims ← Assertion.parse params
  checkIssuer provider params
  checkAddress base params
  return claims

/-- The log of `accept`. -/
def acceptEvents (provider : Provider) (params : Params) : List Event :=
  Assertion.events params ++
    match Assertion.parse params, endpoint? params with
    | .ok _, some endpoint =>
      if endpoint.sameEndpoint provider.url then [] else [.unexpectedProvider endpoint.text]
    | _, _ => []

/-- Whether a parameter is sent back to the provider as it is. -/
def isReturned (entry : String × String) : Bool :=
  Text.startsWith "openid." entry.1 && entry.1 ≠ "openid.mode"

/-- The form that asks the provider to confirm an assertion. -/
def confirmationForm (params : Params) : List (String × String) :=
  params.entries.filter isReturned ++ [("openid.mode", "check_authentication")]

/-- The post that asks the provider to confirm an assertion. -/
def confirmation (provider : Provider) (params : Params) : Post :=
  { url := provider.url.text, form := confirmationForm params }

/-- Whether an answer confirms an assertion. -/
def confirms (reply : Reply) : Bool :=
  lastValue? reply.body "is_valid" = some "true"

/-- What the provider's answer makes of the claims. -/
def judge (claims : Claims) : Option Reply → Except Fault Claims
  | none => .error (.http none)
  | some reply =>
    if ¬ reply.isAccepted then .error (.http (some reply.status))
    else if confirms reply then .ok claims
    else .error (.openId "provider did not confirm the assertion")

/-- The log of `judge`. -/
def judgeEvents (claims : Claims) : Option Reply → List Event
  | none => []
  | some reply =>
    if ¬ reply.isAccepted then []
    else if confirms reply then [.assertionVerified claims.identityUrl]
    else [.assertionRejected claims.identityUrl]

end Provider

end SignOn
