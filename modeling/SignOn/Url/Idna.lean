import SignOn.Unicode.Direction
import SignOn.Unicode.Domain.Role
import SignOn.Unicode.Joining
import SignOn.Unicode.Marks
import SignOn.Unicode.Normal
import SignOn.Url.Punycode

/-!
# International domain names

The ASCII form of a domain name. Its characters are first brought into the form
that stands in domain names; then each label that has characters beyond ASCII is
checked and written in Punycode. Labels that are written so already are read and
checked as well.
-/

set_option autoImplicit false

namespace SignOn.Url.Idna

open SignOn.Text SignOn.Unicode

/-! ## Labels -/

/-- Characters no domain name holds. -/
def isForbidden (c : Char) : Bool :=
  c.toNat ≤ 0x20 || c.toNat = 0x7F ||
    c ∈ ['#', '/', ':', '<', '>', '?', '@', '[', '\\', ']', '^', '|', '%']

/-- How labels in Punycode start. -/
def codedHead : List Char := "xn--".toList

/-- Most characters of a label that is written in Punycode. -/
def maxEncoded : Nat := 1000

/-- Most characters of Punycode that are read. -/
def maxDecoded : Nat := 2000

/-- The label that Punycode stands for. It must need Punycode, and be in the
form that stands in domain names. -/
def decodeLabel? (coded : List Char) : Option (List Char) :=
  if coded.length ≤ maxDecoded ∧ coded.all Punycode.isAscii then
    (Punycode.decode? coded).filter fun label =>
      label.any (!Punycode.isAscii ·) && label.all Domain.stays && Normal.isNormal label
  else none

/-- The label that is meant by `label`. -/
def plainLabel? (label : List Char) : Option (List Char) :=
  match dropHead? codedHead label with
  | some coded => decodeLabel? coded
  | none => some label

/-- The ASCII form of a label. -/
def asciiLabel? (label : List Char) : Option (List Char) :=
  if label.all Punycode.isAscii then some label
  else if label.length ≤ maxEncoded then some (codedHead ++ Punycode.encode label)
  else none

/-! ## Joiners -/

/-- The mark that keeps two letters from joining. -/
def nonJoiner : Char := '\u200C'

/-- The mark that makes two letters join. -/
def joiner : Char := '\u200D'

/-- Whether the marks that govern joining stand where they have an effect: after
a virama, or, for the one that prevents joining, between letters that would
join. `before` holds the characters before the rest, in reverse. -/
def joinersFit (before : List Char) : List Char → Bool
  | [] => true
  | c :: cs =>
    let afterVirama := before.head?.any isVirama
    let between :=
      ((before.dropWhile isTransparent).head?.any joinsNext) &&
        ((cs.dropWhile isTransparent).head?.any joinsPrevious)
    (if c = nonJoiner then afterVirama || between else c != joiner || afterVirama) &&
      joinersFit (c :: before) cs

/-! ## Writing direction -/

/-- Whether a name with this character in it must keep to the rule of direction. -/
def isRightward (c : Char) : Bool :=
  direction c = .right || direction c = .arabicNumber

/-- The direction of the last character that is no mark. -/
def lastDirection? (label : List Char) : Option Direction :=
  (label.map direction).reverse.find? (· ≠ .mark)

/-- Whether a label from right to left is in order. -/
def fitsRight (label : List Char) : Bool :=
  label.all (fun c => direction c ≠ .left) &&
    (lastDirection? label).any (fun last => last ≠ .neutral) &&
    !(label.any (direction · = .europeanNumber) && label.any (direction · = .arabicNumber))

/-- Whether a label from left to right is in order. -/
def fitsLeft (label : List Char) : Bool :=
  label.all (fun c => direction c ≠ .right && direction c ≠ .arabicNumber) &&
    (lastDirection? label).any (fun last => last = .left || last = .europeanNumber)

/-- Whether a label is in order in a name with characters from right to left. -/
def fitsDirection (label : List Char) : Bool :=
  match label.map direction with
  | [] => true
  | .right :: _ => fitsRight label
  | .left :: _ => fitsLeft label
  | _ => false

/-! ## Names -/

/-- Whether a label may stand in a name by itself. -/
def isLabel (label : List Char) : Bool :=
  !(label.any isForbidden) && !(label.head?.any isMark) && joinersFit [] label

/-- Whether labels make up a name. -/
def isName (labels : List (List Char)) : Bool :=
  labels.all isLabel && (!(labels.any (·.any isRightward)) || labels.all fitsDirection)

/-- The ASCII form of a domain name. -/
def toAscii? (domain : List Char) : Option (List Char) := do
  let mapped ← Domain.mapped? domain
  let labels ← (splitAll '.' (Normal.normalize mapped)).mapM plainLabel?
  if isName labels then
    return joinAll '.' (← labels.mapM asciiLabel?)
  else none

end SignOn.Url.Idna
