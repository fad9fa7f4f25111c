import SignOn.Table

/-!
# Sessions

A session holds texts by key. Two keys mark a login: one holds the identity URL
of a federated login, the other the name of a Kerberos login.
-/

set_option autoImplicit false

namespace SignOn

/-- Texts of one browser session by key. -/
abbrev Session : Type := Table String String

/-- Ways to log in. -/
inductive MechanismKind where
  /-- OpenID at the account provider. -/
  | federated
  /-- Kerberos, with groups from the directory. -/
  | directory
deriving Repr, DecidableEq

namespace MechanismKind

/-- Every kind, in the order in which markers are consulted. -/
def all : List MechanismKind := [federated, directory]

/-- Key of the session marker. -/
def sessionKey : MechanismKind → String
  | federated => "openid"
  | directory => "krb5_login"

/-- Name of the kind. -/
def text : MechanismKind → String
  | federated => "federated"
  | directory => "directory"

theorem sessionKey_injective {a b : MechanismKind} (h : a.sessionKey = b.sessionKey) : a = b := by
  cases a <;> cases b <;> simp_all [sessionKey]

end MechanismKind

namespace Session

/-- The marker of a kind, when it is set and not empty. -/
def marker? (session : Session) (kind : MechanismKind) : Option String :=
  (session.get? kind.sessionKey).filter (· ≠ "")

/-- The session without the marker of a kind. -/
def clear (session : Session) (kind : MechanismKind) : Session :=
  session.erase kind.sessionKey

/-- The session without any marker. -/
def clearAll (session : Session) : Session :=
  MechanismKind.all.foldl clear session

end Session

end SignOn
