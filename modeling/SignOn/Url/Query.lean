import SignOn.Url.Basic
import SignOn.Form

/-!
# Queries of URLs

Pairs of names and values appended to the query of a URL in form coding.
-/

set_option autoImplicit false

namespace SignOn.Url

/-- Pairs in form coding, with `&` between them. -/
def pairsText (pairs : List (String × String)) : String :=
  Text.joined "&" (pairs.map fun (name, value) => Form.encodePair name value)

/-- The query `query` with `pairs` after it. -/
def extendQuery (query : String) (pairs : List (String × String)) : String :=
  if query = "" then pairsText pairs
  else Text.joined "&" (query :: pairs.map fun (name, value) => Form.encodePair name value)

/-- The URL with `pairs` at the end of its query. -/
def appendPairs (url : Url) (pairs : List (String × String)) : Url :=
  { url with query := some (extendQuery (url.query.getD "") pairs) }

end SignOn.Url
