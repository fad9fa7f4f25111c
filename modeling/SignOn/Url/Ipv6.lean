import SignOn.Text.Split

/-!
# IPv6 addresses

Eight groups of one to four hexadecimal digits with colons between them. One
run of groups may be left out as `::`, and the last two groups may be written as
an IPv4 address.
-/

set_option autoImplicit false

namespace SignOn.Url.Ipv6

open SignOn.Text

/-- A group of one to four hexadecimal digits. -/
def group? (digits : List Char) : Option Nat :=
  if digits ≠ [] ∧ digits.length ≤ 4 ∧ digits.all fun c => (hexValue? c).isSome then
    some (digitsValue 16 hexValue? digits)
  else none

/-- A decimal number below 256 without leading zeros. -/
def octet? (digits : List Char) : Option Nat :=
  if digits ≠ [] ∧ digits.length ≤ 3 ∧ digits.all isDigit ∧ (digits.length = 1 ∨ digits.head? ≠ some '0')
  then (some (digitsValue 10 hexValue? digits)).filter (· < 256)
  else none

/-- The two groups that an IPv4 address with four numbers fills. -/
def dotted? (cs : List Char) : Option (List Nat) := do
  match ← (splitAll '.' cs).mapM octet? with
  | [a, b, c, d] => some [a * 256 + b, c * 256 + d]
  | _ => none

/-- Groups of the words `words`, of which the last may be an IPv4 address when
`tail` holds. -/
def groups? (tail : Bool) : List (List Char) → Option (List Nat)
  | [] => some []
  | [word] => (group? word).map ([·]) <|> (if tail then dotted? word else none)
  | word :: words => do
    let group ← group? word
    let groups ← groups? tail words
    return group :: groups

/-- Groups of a text that may be empty. -/
def side? (tail : Bool) (cs : List Char) : Option (List Nat) :=
  if cs = [] then some [] else groups? tail (splitAll ':' cs)

/-- Parts before and after the first `::`. -/
def cutRun? : List Char → Option (List Char × List Char)
  | ':' :: ':' :: rest => some ([], rest)
  | [] => none
  | c :: rest => (cutRun? rest).map fun (before, after) => (c :: before, after)

/-- The eight groups that a text writes. -/
def parse? (cs : List Char) : Option (List Nat) :=
  match cutRun? cs with
  | none => (side? true cs).filter (·.length = 8)
  | some (before, after) => do
    let left ← side? false before
    let right ← side? true after
    if left.length + right.length ≤ 7 then
      some (left ++ List.replicate (8 - left.length - right.length) 0 ++ right)
    else none

end SignOn.Url.Ipv6
