import SignOn.Text.Split

/-!
# Reading numbers

Integers and doubles in decimal notation. A double may have a sign, a point and
an exponent; `inf`, `infinity` and `nan` count in any letter case.
-/

set_option autoImplicit false

namespace SignOn.Decimal

open SignOn.Text

/-- Value of one or more digits. -/
def natural? (digits : List Char) : Option Nat :=
  if digits ≠ [] ∧ digits.all isDigit then some (digitsValue 10 hexValue? digits) else none

/-- Whether a sign stands at the head, and what follows it. -/
def cutSign : List Char → Bool × List Char
  | '-' :: rest => (true, rest)
  | '+' :: rest => (false, rest)
  | rest => (false, rest)

/-- An integer with an optional sign. -/
def integer? (cs : List Char) : Option Int :=
  let (negative, digits) := cutSign cs
  (natural? digits).map fun n => if negative then -(n : Int) else n

/-- An integer that fits into 64 bits with its sign. -/
def int64? (cs : List Char) : Option Int :=
  (integer? cs).filter fun n => Int64.minValue.toInt ≤ n ∧ n ≤ Int64.maxValue.toInt

/-- A number that fits into 64 bits; a plus sign may stand before it. -/
def word64? (cs : List Char) : Option Nat :=
  match cs with
  | '+' :: digits => (natural? digits).filter (· < UInt64.size)
  | _ => (natural? cs).filter (· < UInt64.size)

/-- The double nearest to `digits · 10 ^ p`. -/
def nearest (digits : Nat) (p : Int) : Float :=
  let size : Int := (Nat.toDigits 10 digits).length
  if digits = 0 then 0
  else if 310 < size + p then 1.0 / 0.0
  else if size + p < -400 then 0
  else if 0 ≤ p then Float.ofScientific (digits * Nat.pow 10 p.toNat) false 0
  else Float.ofScientific digits true (-p).toNat

/-- A double without a sign in decimal notation. -/
def magnitude? (cs : List Char) : Option Float := do
  let (mantissa, exponent) ←
    match cs.span fun c => c ≠ 'e' && c ≠ 'E' with
    | (mantissa, []) => some (mantissa, (0 : Int))
    | (mantissa, _ :: exponent) => (integer? exponent).map fun e => (mantissa, e)
  let (whole, fraction) := (splitFirst? '.' mantissa).getD (mantissa, [])
  let digits ← natural? (whole ++ fraction)
  return nearest digits (exponent - fraction.length)

/-- A double. -/
def double? (cs : List Char) : Option Float :=
  let (negative, rest) := cutSign cs
  let word := lower (String.ofList rest)
  let magnitude :=
    if word = "inf" ∨ word = "infinity" then some (1.0 / 0.0)
    else if word = "nan" then some (0.0 / 0.0)
    else magnitude? rest
  magnitude.map fun x => if negative then -x else x

end SignOn.Decimal
