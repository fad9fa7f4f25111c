import SignOn.Unicode.Domain.Expansions
import SignOn.Unicode.Domain.Kept
import SignOn.Unicode.Domain.Runs

/-!
# Characters in domain names

What becomes of each character of a domain name that somebody wrote: it stays,
gives way to others, is left out, or makes the name invalid.
-/

set_option autoImplicit false

namespace SignOn.Unicode.Domain

/-- What becomes of a character. -/
inductive Role where
  | stays
  | replaced (image : List Char)
  | leftOut
  | refused
deriving Repr, DecidableEq

/-- Role of a character beyond ASCII. -/
def roleBeyondAscii (n : Nat) : Role :=
  if kept.contains n then .stays
  else
    match runs.findSome? fun run => run.image? n with
    | some c => .replaced [c]
    | none =>
      match expansions.lookup n with
      | some image => .replaced image
      | none => if dropped.contains n then .leftOut else .refused

/-- Role of a character. -/
def role (c : Char) : Role :=
  if c.toNat < 128 then
    if 'A' ≤ c ∧ c ≤ 'Z' then .replaced [Text.lowerChar c] else .stays
  else roleBeyondAscii c.toNat

/-- The characters that stand for `c`. -/
def image? (c : Char) : Option (List Char) :=
  match role c with
  | .stays => some [c]
  | .replaced image => some image
  | .leftOut => some []
  | .refused => none

/-- The text with every character replaced by those that stand for it. -/
def mapped? (cs : List Char) : Option (List Char) :=
  (cs.mapM image?).map List.flatten

/-- Whether `c` stays as it is. -/
def stays (c : Char) : Bool :=
  role c = .stays

end SignOn.Unicode.Domain
