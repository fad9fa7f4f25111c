import SignOn.Unicode.Shown

/-!
# Quoted text

A text between double quotes, in which quotes, backslashes and the characters
that cannot be shown are written as escapes, and the text of an optional value.
-/

set_option autoImplicit false

namespace SignOn.Text.Quoted

/-- Escape of a character by its number. -/
def numbered (c : Char) : List Char :=
  "\\u\x7b".toList ++ Nat.toDigits 16 c.toNat ++ ['\x7d']

/-- Written form of one character. -/
def encodeChar (c : Char) : List Char :=
  if c = '"' then ['\\', '"']
  else if c = '\\' then ['\\', '\\']
  else if c = '\n' then ['\\', 'n']
  else if c = '\t' then ['\\', 't']
  else if c = '\r' then ['\\', 'r']
  else if c.toNat = 0 then ['\\', '0']
  else if Unicode.isShown c then [c]
  else numbered c

/-- `text` between quotes. -/
def encode (text : String) : String :=
  String.ofList ('"' :: text.toList.flatMap encodeChar ++ ['"'])

/-- Text of an optional value. -/
def optional {α : Type} (shown : α → String) : Option α → String
  | none => "None"
  | some value => "Some(" ++ shown value ++ ")"

end SignOn.Text.Quoted
