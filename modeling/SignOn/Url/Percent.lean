import SignOn.Form

/-!
# Percent coding in URLs

The characters that each part of a URL writes as percent-coded bytes.
-/

set_option autoImplicit false

namespace SignOn.Url.Percent

open SignOn.Text

/-- Code points that every part writes as percent-coded bytes. -/
def isControl (c : Char) : Bool :=
  c.toNat < 0x20 || 0x7E < c.toNat

/-- A back quote. -/
def backQuote : Char := Char.ofNat 0x60

/-- Characters coded in a fragment. -/
def inFragment (c : Char) : Bool :=
  isControl c || c ∈ [' ', '"', '<', '>', backQuote]

/-- Characters coded in a path. -/
def inPath (c : Char) : Bool :=
  inFragment c || c ∈ ['#', '?', '\x7b', '\x7d']

/-- Characters coded before the host. -/
def inUserinfo (c : Char) : Bool :=
  inPath c || c ∈ ['/', ':', ';', '=', '@', '[', '\\', ']', '^', '|']

/-- Characters coded in the query of a scheme without special rules. -/
def inQuery (c : Char) : Bool :=
  isControl c || c ∈ [' ', '"', '#', '<', '>']

/-- Characters coded in the query of a scheme with special rules. -/
def inSpecialQuery (c : Char) : Bool :=
  inQuery c || c = '\''

/-- `cs` with the characters that `coded` picks written as percent-coded bytes. -/
def encode (coded : Char → Bool) (cs : List Char) : List Char :=
  cs.flatMap fun c => if coded c then (Utf8.encodeChar c).flatMap Form.escapeByte else [c]

/-- `cs` coded, as a text. -/
def encodeText (coded : Char → Bool) (cs : List Char) : String :=
  String.ofList (encode coded cs)

end SignOn.Url.Percent
