/-!
# Shortest decimals

The fewest decimal digits that read back as a given binary floating point
number. A finite number is `m · 2 ^ q`; it is what every decimal between two
bounds reads back as, the bounds included when `m` is even. For each count of
digits the two neighbours of the number on the decimal grid are tried, and the
first count with a neighbour between the bounds wins; of two such neighbours the
nearer one.
-/

set_option autoImplicit false

namespace SignOn.Decimal

/-- A positive rational number. -/
structure Ratio where
  num : Nat
  den : Nat

/-- A number `m · 2 ^ q` with the decimals that read back as it: those between
`low` and `high`. -/
structure Target where
  low : Ratio
  value : Ratio
  high : Ratio
  /-- Whether the bounds read back as the number too. -/
  closed : Bool

/-- Quarters of `2 ^ q`. -/
def quarters (count : Nat) (q : Int) : Ratio :=
  if 2 ≤ q then ⟨count * Nat.pow 2 (q - 2).toNat, 1⟩ else ⟨count, Nat.pow 2 (2 - q).toNat⟩

/-- The decimals that read back as `m · 2 ^ q`; `power` tells that the next
number below is only half as far away as the next one above. -/
def target (m : Nat) (q : Int) (power : Bool) : Target :=
  { low := quarters (4 * m - (if power then 1 else 2)) q
    value := quarters (4 * m) q
    high := quarters (4 * m + 2) q
    closed := m % 2 = 0 }

/-- Whether `a < b`. -/
def Ratio.less (a b : Ratio) : Bool :=
  a.num * b.den < b.num * a.den

/-- `digits · 10 ^ p`. -/
def scaled (digits : Nat) (p : Int) : Ratio :=
  if 0 ≤ p then ⟨digits * Nat.pow 10 p.toNat, 1⟩ else ⟨digits, Nat.pow 10 (-p).toNat⟩

/-- Whether a decimal reads back as the number. -/
def Target.holds (target : Target) (decimal : Ratio) : Bool :=
  if target.closed then !decimal.less target.low && !target.high.less decimal
  else target.low.less decimal && decimal.less target.high

/-- Number of decimal digits. -/
def digitCount (n : Nat) : Nat :=
  (Nat.toDigits 10 n).length

/-- Exponent of the first digit of a positive number. -/
def leading (r : Ratio) : Int :=
  let guess : Int := (digitCount r.num : Int) - (digitCount r.den : Int)
  if r.less (scaled 1 guess) then guess - 1 else guess

/-- The greatest count of `10 ^ p` that is not above the number. -/
def below (r : Ratio) (p : Int) : Nat :=
  if 0 ≤ p then r.num / (r.den * Nat.pow 10 p.toNat) else r.num * Nat.pow 10 (-p).toNat / r.den

/-- Whether the number is nearer to the upper of its two neighbours on the grid
of `10 ^ p`, or as near to it and the lower one is odd. -/
def preferUpper (r : Ratio) (p : Int) (lower : Nat) : Bool :=
  let middle := scaled (2 * lower + 1) p
  let twice : Ratio := ⟨2 * r.num, r.den⟩
  middle.less twice || (!twice.less middle && lower % 2 = 1)

/-- The neighbour on the grid of `10 ^ p` that reads back as the number, if any. -/
def onGrid? (target : Target) (p : Int) : Option Nat :=
  let lower := below target.value p
  let lowerHolds := 0 < lower && target.holds (scaled lower p)
  let upperHolds := target.holds (scaled (lower + 1) p)
  if lowerHolds && upperHolds then
    some (if preferUpper target.value p lower then lower + 1 else lower)
  else if lowerHolds then some lower
  else if upperHolds then some (lower + 1)
  else none

/-- The first grid with a neighbour, from the grid of `10 ^ p` to finer ones. -/
def search (target : Target) (p : Int) : Nat → Nat × Int
  | 0 => (below target.value p, p)
  | more + 1 =>
    match onGrid? target p with
    | some digits => (digits, p)
    | none => search target (p - 1) more

/-- Digits and exponent of the shortest decimal of a positive number. -/
def shortest (m : Nat) (q : Int) (power : Bool) : Nat × Int :=
  let target := target m q power
  search target (leading target.value) 17

/-- A decimal without an exponent. -/
def positional (digits : Nat) (p : Int) : String :=
  if 0 ≤ p then toString (digits * Nat.pow 10 p.toNat)
  else
    let places := (-p).toNat
    let cs := Nat.toDigits 10 digits
    let padded := List.replicate (places + 1 - cs.length) '0' ++ cs
    let whole := padded.take (padded.length - places)
    let fraction := ((padded.drop (padded.length - places)).reverse.dropWhile (· = '0')).reverse
    if fraction = [] then String.ofList whole
    else String.ofList (whole ++ '.' :: fraction)

/-- Sign, exponent bits and fraction bits of a double. -/
def fields (x : Float) : Bool × Nat × Nat :=
  let bits := x.toBits.toNat
  (Nat.pow 2 63 ≤ bits, bits / Nat.pow 2 52 % 2048, bits % Nat.pow 2 52)

/-- Text of a finite double without its sign. -/
def magnitudeText (exponent fraction : Nat) : String :=
  if exponent = 0 then
    if fraction = 0 then "0"
    else
      let (digits, p) := shortest fraction (-1074) false
      positional digits p
  else
    let (digits, p) := shortest (Nat.pow 2 52 + fraction) ((exponent : Int) - 1075)
      (fraction = 0 && 1 < exponent)
    positional digits p

/-- Text of a double: the shortest decimal, never with an exponent. -/
def text (x : Float) : String :=
  let (negative, exponent, fraction) := fields x
  let sign := if negative then "-" else ""
  if exponent = 2047 then if fraction = 0 then sign ++ "inf" else "NaN"
  else sign ++ magnitudeText exponent fraction

end SignOn.Decimal
