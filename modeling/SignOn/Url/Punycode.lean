import SignOn.Text.Split

/-!
# Punycode

A text as ASCII: its ASCII characters, then where each further character goes.
The further characters are inserted in ascending order, and each insertion is a
number of steps from the one before it, written in base 36 with digits whose
range adapts to the numbers before. `digits?_length` states that reading a number
takes a digit at least.
-/

set_option autoImplicit false

namespace SignOn.Url.Punycode

/-! ## Numbers -/

/-- The digit of a value below 36. -/
def digit (n : Nat) : Char :=
  if n < 26 then Char.ofNat (97 + n) else Char.ofNat (22 + n)

/-- The value of a digit; capital letters count too. -/
def digitValue? (c : Char) : Option Nat :=
  if Text.isLetter c then some ((Text.lowerChar c).toNat - 97)
  else if Text.isDigit c then some (c.toNat - 22)
  else none

/-- A digit below the threshold of its place is the last one of a number. -/
def threshold (place bias : Nat) : Nat :=
  min 26 (max 1 (place - bias))

theorem one_le_threshold (place bias : Nat) : 1 ≤ threshold place bias := by
  simp only [threshold]
  omega

theorem threshold_le (place bias : Nat) : threshold place bias ≤ 26 :=
  Nat.min_le_left _ _

/-- Divides `delta` by 35 until it is below 456, and adds 36 to `places` for each
division. -/
def adaptSteps (delta places : Nat) : Nat × Nat :=
  if delta < 456 then (delta, places) else adaptSteps (delta / 35) (places + 36)
termination_by delta
decreasing_by exact Nat.div_lt_self (by omega) (by omega)

/-- The bias after a number `delta`, when the text has `count` characters. -/
def adapt (delta count : Nat) (isFirst : Bool) : Nat :=
  let scaled := if isFirst then delta / 700 else delta / 2
  let (rest, places) := adaptSteps (scaled + scaled / count) 0
  places + 36 * rest / (rest + 38)

/-- The digits of a number. -/
def digits (bias place n : Nat) : List Char :=
  if h : n < threshold place bias then [digit n]
  else
    digit (threshold place bias + (n - threshold place bias) % (36 - threshold place bias)) ::
      digits bias (place + 36) ((n - threshold place bias) / (36 - threshold place bias))
termination_by n
decreasing_by
  have hlow := one_le_threshold place bias
  exact Nat.lt_of_le_of_lt (Nat.div_le_self _ _) (by omega)

/-- The number at the head, from digits of the weight `weight` on, and what
follows it. -/
def digits? (bias place weight : Nat) : List Char → Option (Nat × List Char)
  | [] => none
  | c :: cs => do
    let value ← digitValue? c
    let bound := threshold place bias
    if value < bound then return (value * weight, cs)
    let (more, rest) ← digits? bias (place + 36) (weight * (36 - bound)) cs
    return (value * weight + more, rest)

theorem digits?_length {bias place weight n : Nat} {cs rest : List Char}
    (h : digits? bias place weight cs = some (n, rest)) : rest.length < cs.length := by
  induction cs generalizing place weight n with
  | nil => simp [digits?] at h
  | cons c cs ih =>
    cases hv : digitValue? c with
    | none => simp [digits?, hv] at h
    | some value =>
      simp only [digits?, hv, Option.bind_eq_bind, Option.bind_some] at h
      split at h
      · simp only [Option.pure_def, Option.some.injEq, Prod.mk.injEq] at h
        simp [h.2]
      · cases hm : digits? bias (place + 36) (weight * (36 - threshold place bias)) cs with
        | none => simp [hm] at h
        | some more =>
          simp only [hm, Option.bind_some, Option.pure_def, Option.some.injEq,
            Prod.mk.injEq] at h
          obtain ⟨tail, after⟩ := more
          obtain ⟨-, rfl⟩ := h
          exact Nat.lt_succ_of_lt (ih hm)

/-! ## Reading -/

/-- A text while further characters are inserted. -/
structure Insertion where
  /-- Code point of the latest character. -/
  code : Nat
  /-- Place after the latest character. -/
  place : Nat
  bias : Nat
  text : List Char

/-- Inserts the character that is `delta` steps after the latest one. A step
goes to the next place; after the last place come the places of the next
code point. -/
def Insertion.insert? (insertion : Insertion) (delta : Nat) : Option Insertion :=
  let count := insertion.text.length + 1
  let steps := insertion.place + delta
  let code := insertion.code + steps / count
  let place := steps % count
  if code.isValidChar then
    some {
      code := code
      place := place + 1
      bias := adapt delta count (insertion.place = 0)
      text := insertion.text.take place ++ Char.ofNat code :: insertion.text.drop place }
  else none

/-- The text after all insertions. -/
def insertAll? (insertion : Insertion) (cs : List Char) : Option (List Char) :=
  match cs with
  | [] => some insertion.text
  | c :: cs =>
    match _h : digits? insertion.bias 36 1 (c :: cs) with
    | none => none
    | some (delta, rest) =>
      match insertion.insert? delta with
      | none => none
      | some next => insertAll? next rest
termination_by cs.length
decreasing_by exact digits?_length _h

/-- The insertions into the ASCII characters of a text. -/
def start (ascii : List Char) : Insertion :=
  ⟨128, 0, 72, ascii⟩

/-- The ASCII characters before the last hyphen, and what follows it. A hyphen
at the head separates nothing. -/
def cut (cs : List Char) : List Char × List Char :=
  match Text.splitFirst? '-' cs.reverse with
  | some (after, before) =>
    if before = [] then ([], cs) else (before.reverse, after.reverse)
  | none => ([], cs)

/-- The text that is written so. -/
def decode? (cs : List Char) : Option (List Char) :=
  let (ascii, rest) := cut cs
  insertAll? (start ascii) rest

/-! ## Writing -/

/-- What is written while the further characters are gone through. -/
structure Writing where
  /-- Code point up to which all characters are written. -/
  code : Nat
  delta : Nat
  bias : Nat
  /-- Number of characters that are written. -/
  count : Nat
  written : List Char

/-- Goes past `c` while the characters with the code point `target` are written.
`ascii` is the number of ASCII characters. -/
def Writing.pass (ascii target : Nat) (writing : Writing) (c : Char) : Writing :=
  if c.toNat < target then { writing with delta := writing.delta + 1 }
  else if c.toNat = target then
    { writing with
      delta := 0
      bias := adapt writing.delta (writing.count + 1) (writing.count = ascii)
      count := writing.count + 1
      written := writing.written ++ digits writing.bias 36 writing.delta }
  else writing

/-- Writes all characters with the code point `target`. -/
def Writing.round (cs : List Char) (ascii : Nat) (writing : Writing) (target : Nat) : Writing :=
  let skipped := (target - writing.code) * (writing.count + 1)
  let passed :=
    cs.foldl (Writing.pass ascii target) { writing with delta := writing.delta + skipped }
  { passed with delta := passed.delta + 1, code := target + 1 }

/-- Whether `c` is an ASCII character. -/
def isAscii (c : Char) : Bool :=
  c.toNat < 128

/-- Code points beyond ASCII in ascending order. -/
def targets (cs : List Char) : List Nat :=
  ((cs.filter (!isAscii ·)).map Char.toNat).eraseDups.mergeSort

/-- The written form of a text. -/
def encode (cs : List Char) : List Char :=
  let ascii := cs.filter isAscii
  let writing := (targets cs).foldl (Writing.round cs ascii.length) ⟨128, 0, 72, ascii.length, []⟩
  (if ascii = [] then [] else ascii ++ ['-']) ++ writing.written

end SignOn.Url.Punycode
