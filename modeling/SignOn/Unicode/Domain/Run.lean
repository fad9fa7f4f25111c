import SignOn.Unicode.Ranges

/-!
# Tables of replacements

Characters with the characters that stand for them, written as hexadecimal
text: `C0-D6>E0` replaces each of U+00C0 to U+00D6 by the one as far after
U+00E0, `100-12E/2>101` does so with every second character, and `132>69.6A`
replaces one character by two.
-/

set_option autoImplicit false

namespace SignOn.Unicode

/-- Characters at equal distances and the equally distant ones that replace
them. -/
structure Run where
  first : Nat
  last : Nat
  stride : Nat
  target : Nat

namespace Run

/-- The character that replaces `n`. -/
def image? (run : Run) (n : Nat) : Option Char :=
  if run.first ≤ n ∧ n ≤ run.last ∧ (n - run.first) % run.stride = 0 then
    some (Char.ofNat (run.target + (n - run.first)))
  else none

/-- A run written as `first-last/stride>target`. -/
def ofWord (word : List Char) : Run :=
  let (source, target) := (Text.splitFirst? '>' word).getD (word, [])
  let (interval, stride) := (Text.splitFirst? '/' source).getD (source, ['1'])
  let (first, last) := Ranges.interval interval
  ⟨first, last, Ranges.hexNat stride, Ranges.hexNat target⟩

/-- Runs written in lines. -/
def ofLines (lines : List String) : List Run :=
  lines.flatMap fun line => (Text.splitAll ' ' line.toList).map ofWord

end Run

namespace Expansion

/-- A character and its replacement written as `source>first.second`. -/
def ofWord (word : List Char) : Nat × List Char :=
  let (source, targets) := (Text.splitFirst? '>' word).getD (word, [])
  (Ranges.hexNat source,
    (Text.splitAll '.' targets).map fun target => Char.ofNat (Ranges.hexNat target))

/-- Characters and their replacements written in lines. -/
def ofLines (lines : List String) : List (Nat × List Char) :=
  lines.flatMap fun line => (Text.splitAll ' ' line.toList).map ofWord

end Expansion

end SignOn.Unicode
