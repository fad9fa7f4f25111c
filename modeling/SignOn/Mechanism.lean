import SignOn.Provider.Basic
import SignOn.Session

/-!
# Login mechanisms

Where the browser is sent to log in, with the destination after the login
carried along in form coding.
-/

set_option autoImplicit false

namespace SignOn

/-- A way to log in that is switched on. -/
inductive Mechanism where
  /-- Login at the provider, for the service at `origin`. -/
  | federated (provider : Provider) (origin : String)
  /-- Login by the server in front of the service. -/
  | directory
deriving Repr, DecidableEq

namespace Mechanism

/-- Kind of a mechanism. -/
def kind : Mechanism → MechanismKind
  | federated .. => .federated
  | directory => .directory

/-- A path with the destination `next` in its query. -/
def withNext (path next : String) : String :=
  path ++ "?" ++ Route.nextParameter ++ "=" ++ Form.encode next

/-- URL of the callback of the service at `origin`, without a query. -/
def returnBase (origin : String) : String :=
  Text.dropEnd '/' origin ++ Route.callbackPath

/-- The whole service at `origin`, as the provider shows it to the user. -/
def realm (origin : String) : String :=
  Text.dropEnd '/' origin ++ "/"

/-- Where the browser is sent to log in. -/
def loginUrl (mechanism : Mechanism) (next : String) : String :=
  match mechanism with
  | federated provider origin => provider.setupUrl (withNext (returnBase origin) next) (realm origin)
  | directory => withNext Route.kerberosWebPath next

end Mechanism

end SignOn
