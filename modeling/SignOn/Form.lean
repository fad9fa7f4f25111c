import SignOn.Text.Split
import SignOn.Text.Utf8

/-!
# Form coding

The coding of names and values as `application/x-www-form-urlencoded`: a space
is written `+`, the characters `A-Z a-z 0-9 * - . _` stand for themselves, and
every other byte is written as `%` with two hexadecimal digits in upper case.
Reading accepts any text.
-/

namespace SignOn.Form

open SignOn.Text

/-! ## Writing -/

/-- Hexadecimal digit of a value below sixteen, letters in upper case. -/
def upperHexDigit (n : Nat) : Char :=
  if n < 10 then Char.ofNat (48 + n) else Char.ofNat (55 + n)

/-- `%` and the two hexadecimal digits of a byte. -/
def escapeByte (b : UInt8) : List Char :=
  ['%', upperHexDigit (b.toNat / 16), upperHexDigit (b.toNat % 16)]

/-- Bytes that stand for themselves. -/
def isPlain (b : UInt8) : Bool :=
  let c := Char.ofNat b.toNat
  isLetter c || isDigit c || c == '*' || c == '-' || c == '.' || c == '_'

/-- Written form of one byte. -/
def encodeByte (b : UInt8) : List Char :=
  if isPlain b then [Char.ofNat b.toNat]
  else if b = 0x20 then ['+']
  else escapeByte b

/-- Written form of the characters `cs`. -/
def encodeChars (cs : List Char) : List Char :=
  (Utf8.encode cs).flatMap encodeByte

/-- Written form of a name or a value. -/
def encode (text : String) : String :=
  String.ofList (encodeChars text.toList)

/-- Written form of one name with its value. -/
def encodePair (name value : String) : String :=
  encode name ++ "=" ++ encode value

/-! ## Reading -/

/-- Bytes of `cs` with `%` and two hexadecimal digits read as one byte. -/
def percentDecode : List Char → List UInt8
  | [] => []
  | '%' :: a :: b :: rest =>
    match hexValue? a, hexValue? b with
    | some hi, some lo => UInt8.ofNat (hi * 16 + lo) :: percentDecode rest
    | _, _ => Utf8.encodeChar '%' ++ percentDecode (a :: b :: rest)
  | c :: rest => Utf8.encodeChar c ++ percentDecode rest

/-- Characters written as `cs`. -/
def decodeChars (cs : List Char) : List Char :=
  Utf8.decodeLossy (percentDecode (cs.map fun c => if c = '+' then ' ' else c))

/-- Name or value written as `text`. -/
def decode (text : String) : String :=
  String.ofList (decodeChars text.toList)

/-- Name and value of one part of a query; a part without `=` has an empty
value. -/
def decodePair (part : List Char) : String × String :=
  match splitFirst? '=' part with
  | some (name, value) =>
    (String.ofList (decodeChars name), String.ofList (decodeChars value))
  | none => (String.ofList (decodeChars part), "")

/-- Names and values of a query, in order; empty parts are skipped. -/
def decodeAll (query : String) : List (String × String) :=
  ((splitAll '&' query.toList).filter (· ≠ [])).map decodePair

end SignOn.Form
