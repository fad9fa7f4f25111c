import SignOn.Calendar
import SignOn.Document.Toml.Text
import SignOn.Document.Value

/-!
# TOML: numbers, truth values and dates

The scalars that are written without quotes. A date or time is read as the text
that writes it.
-/

set_option autoImplicit false

namespace SignOn.Document.Toml

open SignOn.Text

/-! ## Numbers -/

/-- Digits in groups with single underscores between them, without these. -/
def ungrouped? (isDigit : Char → Bool) (cs : List Char) : Option (List Char) :=
  let groups := splitAll '_' cs
  if groups.all fun group => group ≠ [] && group.all isDigit then some groups.flatten else none

/-- A decimal number in groups, without zeros at its head. -/
def whole? (cs : List Char) : Option (List Char) :=
  (ungrouped? isDigit cs).filter fun digits => digits.length = 1 || digits.head? ≠ some '0'

/-- A number in base `base`, with the digits that are below it. -/
def based? (base : Nat) (cs : List Char) : Option Int :=
  (ungrouped? (fun c => (hexValue? c).any (· < base)) cs).map fun digits =>
    digitsValue base hexValue? digits

/-- An integer of 64 bits. -/
def integer? (cs : List Char) : Option Int :=
  let magnitude : Option Int :=
    match cs with
    | '0' :: 'x' :: digits => based? 16 digits
    | '0' :: 'o' :: digits => based? 8 digits
    | '0' :: 'b' :: digits => based? 2 digits
    | _ =>
      let (negative, digits) := Decimal.cutSign cs
      (whole? digits).map fun digits =>
        let n : Int := digitsValue 10 hexValue? digits
        if negative then -n else n
  magnitude.filter fun n => Int64.minValue.toInt ≤ n ∧ n ≤ Int64.maxValue.toInt

/-- The digits after a point. -/
def fraction? (cs : List Char) : Option (List Char) :=
  (ungrouped? isDigit cs).map ('.' :: ·)

/-- An exponent after its letter. -/
def exponent? (cs : List Char) : Option (List Char) :=
  let (negative, digits) := Decimal.cutSign cs
  (ungrouped? isDigit digits).map fun digits => 'e' :: if negative then '-' :: digits else digits

/-- A number with a point or an exponent, in plain decimal notation. -/
def plainDouble? (cs : List Char) : Option (List Char) :=
  match cs.span fun c => c ≠ 'e' && c ≠ 'E' with
  | (mantissa, []) => do
    let (whole, fraction) ← splitFirst? '.' mantissa
    return (← whole? whole) ++ (← fraction? fraction)
  | (mantissa, _ :: exponent) => do
    match splitFirst? '.' mantissa with
    | none => return (← whole? mantissa) ++ (← exponent? exponent)
    | some (whole, fraction) =>
      return (← whole? whole) ++ (← fraction? fraction) ++ (← exponent? exponent)

/-- A number with a point or an exponent, or one of the words `inf` and `nan`. -/
def double? (cs : List Char) : Option Float :=
  let (negative, rest) := Decimal.cutSign cs
  let magnitude : Option Float :=
    if rest = "inf".toList then some (1.0 / 0.0)
    else if rest = "nan".toList then some (0.0 / 0.0)
    else ((plainDouble? rest).bind Decimal.magnitude?).filter (·.isFinite)
  magnitude.map fun x => if negative then -x else x

/-! ## Dates and times -/

/-- A number of exactly `n` digits. -/
def fixed? (n : Nat) (cs : List Char) : Option Nat :=
  if cs.length = n then Decimal.natural? cs else none

/-- Whether a date is written correctly: year, month and day. -/
def isDate (cs : List Char) : Bool :=
  match (splitAll '-' cs) with
  | [year, month, day] =>
    match fixed? 4 year, fixed? 2 month, fixed? 2 day with
    | some y, some m, some d => 1 ≤ m && m ≤ 12 && 1 ≤ d && d ≤ Calendar.daysOfMonth y m
    | _, _, _ => false
  | _ => false

/-- Whether hours and minutes are written correctly. -/
def isClock (hour minute : List Char) : Bool :=
  (fixed? 2 hour).any (· < 24) && (fixed? 2 minute).any (· < 60)

/-- The digits of a fraction of a second that count: nine at most, without
zeros at their end but for the first digit. -/
def subsecond? (cs : List Char) : Option (List Char) :=
  if cs ≠ [] ∧ cs.all isDigit then
    let digits := ((cs.take 9).reverse.dropWhile (· = '0')).reverse
    some (if digits = [] then ['0'] else digits)
  else none

/-- A time as it is written in full. -/
def time? (cs : List Char) : Option (List Char) :=
  match splitAll ':' cs with
  | [hour, minute] => if isClock hour minute then some cs else none
  | [hour, minute, second] =>
    if isClock hour minute then
      match splitFirst? '.' second with
      | none => if (fixed? 2 second).any (· ≤ 60) then some cs else none
      | some (whole, digits) =>
        if (fixed? 2 whole).any (· ≤ 60) then
          (subsecond? digits).map fun digits =>
            joinAll ':' [hour, minute, whole] ++ '.' :: digits
        else none
    else none
  | _ => none

/-- An offset from universal time, without its sign. -/
def isOffset (cs : List Char) : Bool :=
  match splitAll ':' cs with
  | [hour, minute] => isClock hour minute
  | _ => false

/-- A time with an optional offset, as it is written in full. An offset of
nothing has a plus sign. -/
def offsetTime? (cs : List Char) : Option (List Char) :=
  match cs.span fun c => c ≠ 'Z' && c ≠ 'z' && c ≠ '+' && c ≠ '-' with
  | (time, []) => time? time
  | (time, sign :: offset) =>
    if sign = 'Z' ∨ sign = 'z' then
      if offset = [] then (time? time).map (· ++ ['Z']) else none
    else if isOffset offset then
      let sign := if offset = "00:00".toList then '+' else sign
      (time? time).map (· ++ sign :: offset)
    else none

/-- Length of a date. -/
def dateLength : Nat := 10

/-- A date, a time or both, as it is written in full: a `T` stands between date
and time. -/
def moment? (cs : List Char) : Option (List Char) :=
  let date := cs.take dateLength
  match cs.drop dateLength with
  | [] => if isDate date then some date else time? cs
  | c :: time =>
    if isDate date ∧ (c = 'T' ∨ c = 't' ∨ c = ' ') then
      (offsetTime? time).map fun time => date ++ 'T' :: time
    else time? cs

/-! ## Scalars -/

/-- Whether `c` may stand in a scalar without quotes. -/
def isScalarChar (c : Char) : Bool :=
  isLetter c || isDigit c || c = '+' || c = '-' || c = '.' || c = '_' || c = ':'

/-- The characters of a scalar at the head, and what follows them. A blank
stands within a scalar only between a date and a time. -/
def cutScalar (cs : List Char) : List Char × List Char :=
  let (word, rest) := cs.span isScalarChar
  match rest with
  | ' ' :: c :: after =>
    if isDate word ∧ isDigit c then
      let (time, rest) := (c :: after).span isScalarChar
      (word ++ ' ' :: time, rest)
    else (word, rest)
  | _ => (word, rest)

/-- The value written by the characters of a scalar. -/
def scalarOf? (word : List Char) : Option Value :=
  if word = "true".toList then some (.flag true)
  else if word = "false".toList then some (.flag false)
  else
    match integer? word with
    | some n => some (.integer n)
    | none =>
      match double? word with
      | some x => some (.double x)
      | none => (moment? word).map fun text => .text (String.ofList text)

/-- A string or another scalar, and what follows it. -/
def scalar? (cs : List Char) : Option (Value × List Char) :=
  match cs with
  | '"' :: _ | '\'' :: _ =>
    (string? cs).map fun (text, rest) => (.text (String.ofList text), rest)
  | _ =>
    let (word, rest) := cutScalar cs
    (scalarOf? word).map fun value => (value, rest)

end SignOn.Document.Toml
