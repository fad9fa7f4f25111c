/-!
# Separators and ASCII letter case

Cutting a list of characters at a separator, and the comparison of names that
ignores the case of ASCII letters. `Text.joinAll_splitAll` states that cutting
loses nothing.
-/

namespace SignOn.Text

/-! ## Cutting -/

/-- Pieces of `cs` between the occurrences of `sep`; always at least one piece. -/
def splitAll (sep : Char) : List Char → List (List Char)
  | [] => [[]]
  | c :: cs =>
    if c = sep then [] :: splitAll sep cs
    else
      match splitAll sep cs with
      | [] => [[c]]
      | piece :: pieces => (c :: piece) :: pieces

/-- Parts of `cs` before and after the first `sep`, if there is one. -/
def splitFirst? (sep : Char) : List Char → Option (List Char × List Char)
  | [] => none
  | c :: cs =>
    if c = sep then some ([], cs)
    else (splitFirst? sep cs).map fun (before, after) => (c :: before, after)

/-- Pieces joined with `sep` between them. -/
def joinAll (sep : Char) : List (List Char) → List Char
  | [] => []
  | [piece] => piece
  | piece :: next :: pieces => piece ++ sep :: joinAll sep (next :: pieces)

theorem splitAll_ne_nil (sep : Char) (cs : List Char) : splitAll sep cs ≠ [] := by
  cases cs with
  | nil => simp [splitAll]
  | cons c cs =>
    simp only [splitAll]
    split
    · simp
    · split <;> simp

theorem joinAll_splitAll (sep : Char) (cs : List Char) :
    joinAll sep (splitAll sep cs) = cs := by
  induction cs with
  | nil => rfl
  | cons c cs ih =>
    simp only [splitAll]
    split
    · next h =>
      subst h
      cases hs : splitAll c cs with
      | nil => exact absurd hs (splitAll_ne_nil c cs)
      | cons piece pieces => simp [joinAll, ← hs, ih]
    · split
      · next hs => exact absurd hs (splitAll_ne_nil sep cs)
      · next piece pieces hs =>
        rw [hs] at ih
        cases pieces with
        | nil => simpa [joinAll] using ih
        | cons next rest => simpa [joinAll] using ih

/-- `text` cut at every `sep`. -/
def pieces (sep : Char) (text : String) : List String :=
  (splitAll sep text.toList).map String.ofList

/-- `text` cut at its first `sep`. -/
def cut? (sep : Char) (text : String) : Option (String × String) :=
  (splitFirst? sep text.toList).map fun (before, after) =>
    (String.ofList before, String.ofList after)

/-! ## Prefixes, suffixes and joining -/

/-- The rest of `text` after the characters of `head`, if it starts with them. -/
def dropHead? : (head text : List Char) → Option (List Char)
  | [], text => some text
  | _ :: _, [] => none
  | h :: head, c :: text => if h = c then dropHead? head text else none

/-- The rest of `text` before the characters of `tail`, if it ends with them. -/
def dropTail? (tail text : List Char) : Option (List Char) :=
  (dropHead? tail.reverse text.reverse).map List.reverse

/-- Whether `text` starts with `head`. -/
def startsWith (head text : String) : Bool :=
  (dropHead? head.toList text.toList).isSome

/-- Texts joined with `sep` between them. -/
def joined (sep : String) : List String → String
  | [] => ""
  | [text] => text
  | text :: next :: texts => text ++ sep ++ joined sep (next :: texts)

/-- `text` without the occurrences of `c` at its end. -/
def dropEnd (c : Char) (text : String) : String :=
  String.ofList (text.toList.reverse.dropWhile (· = c)).reverse

/-! ## ASCII letter case -/

/-- Lower case of an ASCII letter; any other character is its own. -/
def lowerChar (c : Char) : Char :=
  if 'A' ≤ c ∧ c ≤ 'Z' then Char.ofNat (c.toNat + 32) else c

/-- `text` with its ASCII letters in lower case. -/
def lower (text : String) : String :=
  String.ofList (text.toList.map lowerChar)

/-- Equality up to the case of ASCII letters. -/
def sameName (a b : String) : Bool :=
  a.toList.map lowerChar = b.toList.map lowerChar

/-- Whether `c` is an ASCII digit. -/
def isDigit (c : Char) : Bool :=
  '0' ≤ c ∧ c ≤ '9'

/-- Whether `c` is an ASCII letter. -/
def isLetter (c : Char) : Bool :=
  ('a' ≤ c ∧ c ≤ 'z') ∨ ('A' ≤ c ∧ c ≤ 'Z')

/-- Value of a hexadecimal digit in either case. -/
def hexValue? (c : Char) : Option Nat :=
  if isDigit c then some (c.toNat - 48)
  else if 'a' ≤ c ∧ c ≤ 'f' then some (c.toNat - 87)
  else if 'A' ≤ c ∧ c ≤ 'F' then some (c.toNat - 55)
  else none

/-- Hexadecimal digit of a value below sixteen, letters in lower case. -/
def hexDigit (n : Nat) : Char :=
  if n < 10 then Char.ofNat (48 + n) else Char.ofNat (87 + n)

/-- Value of a list of digits in base `base`, most significant first. -/
def digitsValue (base : Nat) (value? : Char → Option Nat) (digits : List Char) : Nat :=
  digits.foldl (fun n c => n * base + (value? c).getD 0) 0

/-- Hexadecimal text of `n`, without leading zeros. -/
def hexText (n : Nat) : String :=
  String.ofList ((Nat.toDigits 16 n))

end SignOn.Text
