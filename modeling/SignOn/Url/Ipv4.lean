import SignOn.Text.Split

/-!
# IPv4 addresses in host names

A host whose last label is a number is an IPv4 address: one to four numbers,
decimal, octal after `0` or hexadecimal after `0x`, the last of which fills all
places that are left.
-/

set_option autoImplicit false

namespace SignOn.Url.Ipv4

open SignOn.Text

/-- Value of a digit below `base`. -/
def digit? (base : Nat) (c : Char) : Option Nat :=
  (hexValue? c).filter (· < base)

/-- Value of `digits` in `base`; no digits are zero. -/
def value? (base : Nat) (digits : List Char) : Option Nat :=
  if digits.all fun c => (digit? base c).isSome then some (digitsValue base hexValue? digits) else none

/-- A number in decimal, octal or hexadecimal notation. -/
def number? : List Char → Option Nat
  | [] => none
  | '0' :: 'x' :: digits | '0' :: 'X' :: digits => value? 16 digits
  | '0' :: d :: digits => value? 8 (d :: digits)
  | digits => value? 10 digits

/-- Labels of a host, without the empty one after a final dot. -/
def labels (host : List Char) : List (List Char) :=
  let labels := splitAll '.' host
  if 1 < labels.length ∧ labels.getLast? = some [] then labels.dropLast else labels

/-- Whether the last label of a host is a number. -/
def endsInNumber (host : List Char) : Bool :=
  match (labels host).getLast? with
  | none => false
  | some label => (label ≠ [] && label.all isDigit) || (number? label).isSome

/-- Address of the numbers `first`, one place each, and of `last`, which fills
the places that are left. -/
def assemble? (first : List Nat) (last : Nat) : Option Nat :=
  let room := Nat.pow 256 (4 - first.length)
  if first.length ≤ 3 ∧ first.all (· < 256) ∧ last < room then
    some (first.foldl (fun n part => n * 256 + part) 0 * room + last)
  else none

/-- The address a host writes. -/
def parse? (host : List Char) : Option Nat := do
  let numbers ← (labels host).mapM number?
  let last ← numbers.getLast?
  assemble? numbers.dropLast last

end SignOn.Url.Ipv4
