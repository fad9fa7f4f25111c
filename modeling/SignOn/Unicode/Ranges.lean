import SignOn.Text.Split

/-!
# Sets of code points

A property of characters is kept as a list of intervals of code points, written
as hexadecimal text: `41-5A AA` holds the capital letters `A` to `Z` and U+00AA.
-/

set_option autoImplicit false

namespace SignOn.Unicode

/-- Closed intervals of code points. -/
structure Ranges where
  intervals : List (Nat × Nat)

namespace Ranges

/-- Value of hexadecimal text. -/
def hexNat (digits : List Char) : Nat :=
  Text.digitsValue 16 Text.hexValue? digits

/-- The interval written as `lo-hi`, or as one number. -/
def interval (word : List Char) : Nat × Nat :=
  match Text.splitFirst? '-' word with
  | some (lo, hi) => (hexNat lo, hexNat hi)
  | none => (hexNat word, hexNat word)

/-- The set written as lines of intervals. -/
def ofLines (lines : List String) : Ranges :=
  ⟨lines.flatMap fun line => (Text.splitAll ' ' line.toList).map interval⟩

/-- Membership of a code point. -/
def contains (ranges : Ranges) (n : Nat) : Bool :=
  ranges.intervals.any fun (lo, hi) => lo ≤ n && n ≤ hi

end Ranges

end SignOn.Unicode
