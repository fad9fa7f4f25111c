import SignOn.Route
import SignOn.Session
import SignOn.Url.Parse

/-!
# Requests

A request with the parts of its target that routes look at, the pages of the
service, and which page a path leads to.
-/

set_option autoImplicit false

namespace SignOn.Web

open SignOn.Text

/-- A request. -/
structure Request where
  method : String
  /-- Components of the path, without coding and without empty ones. -/
  components : List String
  query : Option String
  headers : List (String × String)
  /-- The session that a valid cookie holds. -/
  cookie : Option Session
deriving Repr, DecidableEq

namespace Request

/-- Components of a path; empty ones do not count. -/
def componentsOf (path : String) : List String :=
  ((pieces '/' path).filter (· ≠ "")).map fun part =>
    String.ofList (Utf8.decodeLossy (Form.percentDecode part.toList))

/-- Origin at which requests arrive. -/
def listener : String := "http://127.0.0.1:5800"

/-- The request for a path with its query. -/
def ofTarget? (method target : String) (headers : List (String × String))
    (cookie : Option Session) : Option Request :=
  (Url.parse (listener ++ target)).toOption.map fun url =>
    { method := method, components := componentsOf url.path.text, query := url.query
      headers := headers, cookie := cookie }

/-- Names and values in the query. -/
def pairs (request : Request) : List (String × String) :=
  request.query.elim [] Form.decodeAll

/-- Parameters of the query; of several values of a name the last one counts. -/
def params (request : Request) : Table String String :=
  Table.ofList request.pairs

/-- The first value of a parameter. -/
def firstValue? (request : Request) (name : String) : Option String :=
  (request.pairs.find? (·.1 = name)).map (·.2)

/-- Whether `c` may stand in a header that is read as text. -/
def isHeaderChar (c : Char) : Bool :=
  (32 ≤ c.toNat && c.toNat < 127) || c = '\t'

/-- The first header of a name, when it can be read as text. -/
def header? (request : Request) (name : String) : Option String :=
  ((request.headers.find? fun header => sameName header.1 name).map (·.2)).filter fun value =>
    value.toList.all isHeaderChar

end Request

/-- The local destination in `raw`, or `/`. -/
def safeNext (raw : Option String) : String :=
  match raw with
  | none => "/"
  | some next =>
    if startsWith "/" next && !startsWith "//" next && !next.toList.contains '\\' then next else "/"

/-- The destination a request names. -/
def Request.next (request : Request) : String :=
  safeNext (request.firstValue? Route.nextParameter)

/-- Pages of the service. -/
inductive Page where
  | apiRoot
  | kerberosApi
  | kerberosWeb
  | authCheck
  | login
  | kerberosLogin
  | callback
  | logout
deriving Repr, DecidableEq

namespace Page

/-- Every page. -/
def all : List Page :=
  [login, kerberosLogin, callback, logout, apiRoot, kerberosApi, kerberosWeb, authCheck]

/-- Components of the path of a page. -/
def components : Page → List String
  | apiRoot => [Route.api]
  | kerberosApi => [Route.api, Route.kerberosApi]
  | kerberosWeb => [Route.api, Route.kerberosApi, Route.webUi]
  | authCheck => [Route.api, Route.authCheck]
  | login => [Route.login]
  | kerberosLogin => [Route.kerberosLogin]
  | callback => [Route.openId, Route.callback]
  | logout => [Route.logout]

end Page

/-- Where a request leads. -/
inductive Target where
  | page (page : Page)
  | methodNotAllowed
  | nowhere
deriving Repr, DecidableEq

/-- Where a request leads: every page answers `GET`, and the paths on the way to
a page exist without an answer. -/
def Request.target (request : Request) : Target :=
  match Page.all.find? (·.components = request.components) with
  | some page => if request.method = "GET" then .page page else .methodNotAllowed
  | none =>
    if Page.all.any fun page => request.components.isPrefixOf page.components then .methodNotAllowed
    else .nowhere

end SignOn.Web
