import SignOn.Text.Blank
import SignOn.Text.Split

/-!
# Messages to and from the provider

The form the service posts to the provider, the provider's answer, and the
reading of an answer's `key:value` lines.
-/

set_option autoImplicit false

namespace SignOn.Provider

open SignOn.Text

/-- A form posted to an endpoint. -/
structure Post where
  url : String
  form : List (String × String)
deriving Repr, DecidableEq

/-- An HTTP answer. -/
structure Reply where
  status : Nat
  body : String
deriving Repr, DecidableEq

/-- Whether the status reports no failure; those from 400 to 599 do. -/
def Reply.isAccepted (reply : Reply) : Bool :=
  reply.status < 400 || 600 ≤ reply.status

/-- Key and value of a line, without the blanks around them. -/
def keyValue? (line : String) : Option (String × String) :=
  (cut? ':' line).map fun (key, value) => (trim key, trim value)

/-- Keys and values of the lines of a body, in order. -/
def keyValues (body : String) : List (String × String) :=
  (pieces '\n' body).filterMap keyValue?

/-- The last value of `key` in a body. -/
def lastValue? (body key : String) : Option String :=
  ((keyValues body).filter (·.1 = key)).getLast?.map (·.2)

end SignOn.Provider
