import SignOn.Url.Parse

/-!
# Names of federated identities

How an identity URL becomes a username. An identity at the provider's own host
is named by the first segment of its path, one at a subdomain of it by the
leading labels of the host. Every other identity keeps its URL as its name.
-/

set_option autoImplicit false

namespace SignOn.Identity

open SignOn.Text

/-- What an identity URL says about its user. -/
inductive Reading where
  /-- The text is no URL with a host. -/
  | hostless
  /-- The provider vouches for the short name. -/
  | named (name : String)
  /-- The host is not the provider's, or names nobody there. -/
  | foreign
deriving Repr, DecidableEq

/-- First segment of a path that is not empty. -/
def firstSegment? (url : Url) : Option String :=
  (url.segments?.getD []).find? (· ≠ "")

/-- The labels of `host` before `.` and `provider`, when there are some. -/
def leadingLabels? (provider host : String) : Option String :=
  ((dropTail? provider.toList host.toList).bind (dropTail? ['.'])).bind fun labels =>
    if labels = [] then none else some (String.ofList labels)

/-- The name an identity at `host` has at the provider's host. -/
def nameAt? (provider host : String) (url : Url) : Option String :=
  if host = provider then firstSegment? url else leadingLabels? provider host

/-- Reads an identity URL. -/
def read (identity : String) (providerHost : Option String) : Reading :=
  match (Url.parse identity).toOption.bind fun url => url.hostText?.map fun host => (url, host) with
  | none => .hostless
  | some (url, host) =>
    match providerHost.bind fun provider => nameAt? (lower provider) host url with
    | some name => .named name
    | none => .foreign

/-- The username of an identity. -/
def username (identity : String) (providerHost : Option String) : String :=
  match read identity providerHost with
  | .named name => name
  | _ => identity

end SignOn.Identity
