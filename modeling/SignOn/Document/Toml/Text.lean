import SignOn.Text.Split

/-!
# TOML: space, comments and strings

The lowest level of a TOML document. Strings come in four forms: basic and
literal, each on one line or on several.
-/

set_option autoImplicit false

namespace SignOn.Document.Toml

open SignOn.Text

/-! ## Space -/

/-- Space within a line. -/
def isBlank (c : Char) : Bool :=
  c = ' ' || c = '\t'

/-- Whether `c` may stand in a comment or within a line of a string. -/
def isTextChar (c : Char) : Bool :=
  c = '\t' || (' ' ≤ c && c.toNat ≠ 127)

/-- What follows the blanks at the head. -/
def skipBlanks (cs : List Char) : List Char :=
  cs.dropWhile isBlank

/-- What follows a line break at the head. -/
def lineBreak? : List Char → Option (List Char)
  | '\n' :: rest => some rest
  | '\r' :: '\n' :: rest => some rest
  | _ => none

/-- What follows blanks, comments and line breaks at the head. -/
def skipSpace (inComment : Bool) : List Char → List Char
  | [] => []
  | '\n' :: rest => skipSpace false rest
  | '\r' :: '\n' :: rest => skipSpace false rest
  | c :: rest =>
    if inComment then if isTextChar c then skipSpace true rest else c :: rest
    else if isBlank c then skipSpace false rest
    else if c = '#' then skipSpace true rest
    else c :: rest

/-- What follows a comment at the head, if there is one. -/
def skipComment : List Char → List Char
  | '#' :: rest => rest.dropWhile isTextChar
  | rest => rest

/-- The next line, when nothing but blanks and a comment is left of this one. -/
def lineEnd? (cs : List Char) : Option (List Char) :=
  match skipComment (skipBlanks cs) with
  | [] => some []
  | rest => lineBreak? rest

/-! ## Escapes -/

/-- The character with the code written in the first `n` hexadecimal digits. -/
def coded? (n : Nat) (cs : List Char) : Option (Char × List Char) :=
  let digits := cs.take n
  let code := digitsValue 16 hexValue? digits
  if digits.length = n ∧ digits.all (hexValue? · |>.isSome) ∧ code.isValidChar then
    some (Char.ofNat code, cs.drop n)
  else none

/-- The character an escape stands for; the backslash is cut off already. -/
def escape? : List Char → Option (Char × List Char)
  | 'b' :: rest => some ('\x08', rest)
  | 't' :: rest => some ('\t', rest)
  | 'n' :: rest => some ('\n', rest)
  | 'f' :: rest => some ('\x0c', rest)
  | 'r' :: rest => some ('\r', rest)
  | 'e' :: rest => some ('\x1b', rest)
  | '"' :: rest => some ('"', rest)
  | '\\' :: rest => some ('\\', rest)
  | 'x' :: rest => coded? 2 rest
  | 'u' :: rest => coded? 4 rest
  | 'U' :: rest => coded? 8 rest
  | _ => none

theorem coded?_length {n : Nat} {cs rest : List Char} {c : Char}
    (h : coded? n cs = some (c, rest)) : rest.length ≤ cs.length := by
  simp only [coded?] at h
  split at h
  · simp only [Option.some.injEq, Prod.mk.injEq] at h
    simp [← h.2]
  · simp at h

theorem escape?_length {cs rest : List Char} {c : Char} (h : escape? cs = some (c, rest)) :
    rest.length < cs.length := by
  unfold escape? at h
  split at h
  case h_9 | h_10 | h_11 => exact Nat.lt_succ_of_le (coded?_length h)
  all_goals simp_all

/-! ## Strings -/

/-- The rest of a basic string, after its opening quote. -/
def basic? (cs : List Char) : Option (List Char × List Char) :=
  match cs with
  | [] => none
  | '"' :: rest => some ([], rest)
  | '\\' :: rest =>
    match _h : escape? rest with
    | some (c, after) => (basic? after).map fun (text, rest) => (c :: text, rest)
    | none => none
  | c :: rest =>
    if isTextChar c then (basic? rest).map fun (text, rest) => (c :: text, rest) else none
termination_by cs.length
decreasing_by
  · have := escape?_length _h; simp; omega
  · simp

/-- The rest of a literal string, after its opening quote. -/
def literal? : List Char → Option (List Char × List Char)
  | [] => none
  | '\'' :: rest => some ([], rest)
  | c :: rest =>
    if isTextChar c then (literal? rest).map fun (text, rest) => (c :: text, rest) else none

/-- What follows blanks and line breaks at the head. -/
def skipLines : List Char → List Char
  | '\r' :: '\n' :: rest => skipLines rest
  | c :: rest => if isBlank c || c = '\n' then skipLines rest else c :: rest
  | [] => []

theorem skipLines_length (cs : List Char) : (skipLines cs).length ≤ cs.length := by
  induction cs using skipLines.induct with
  | case1 rest ih => exact Nat.le_succ_of_le (Nat.le_succ_of_le ih)
  | case2 c rest hno h ih =>
    have e : skipLines (c :: rest) = skipLines rest := by
      rw [skipLines, if_pos h]
      exact hno
    rw [e]
    exact Nat.le_succ_of_le ih
  | case3 c rest hno h =>
    have e : skipLines (c :: rest) = c :: rest := by
      rw [skipLines, if_neg h]
      exact hno
    exact Nat.le_of_eq (congrArg List.length e)
  | case4 => exact Nat.le_refl _

/-- What follows the space after a backslash that ends a line. -/
def skipJoint (cs : List Char) : Option (List Char) :=
  (lineBreak? (skipBlanks cs)).map skipLines

theorem lineBreak?_length {cs rest : List Char} (h : lineBreak? cs = some rest) :
    rest.length < cs.length := by
  unfold lineBreak? at h
  split at h
  · cases h
    exact Nat.lt_succ_self _
  · cases h
    exact Nat.lt_add_of_pos_right Nat.two_pos
  · cases h

theorem skipJoint_length {cs rest : List Char} (h : skipJoint cs = some rest) :
    rest.length < cs.length := by
  simp only [skipJoint, Option.map_eq_some_iff] at h
  obtain ⟨line, hline, rfl⟩ := h
  have h₁ := lineBreak?_length hline
  have h₂ := (List.dropWhile_sublist (l := cs) isBlank).length_le
  have h₃ := skipLines_length line
  simp only [skipBlanks] at h₁
  omega

/-- The end of a string on several lines at `quote`s: up to two quotes before
the closing three belong to the text. -/
def closing? (quote : Char) (cs : List Char) : Option (List Char × List Char) :=
  let quotes := (cs.take 5).takeWhile (· = quote)
  if 3 ≤ quotes.length then
    some (List.replicate (quotes.length - 3) quote, cs.drop quotes.length)
  else none

/-- The characters of a line break or the single character at the head of a
string on several lines, and what follows them. -/
def piece? : List Char → Option (List Char × List Char)
  | '\n' :: rest => some (['\n'], rest)
  | '\r' :: '\n' :: rest => some (['\r', '\n'], rest)
  | c :: rest => if isTextChar c then some ([c], rest) else none
  | [] => none

theorem piece?_length {cs text rest : List Char} (h : piece? cs = some (text, rest)) :
    rest.length < cs.length := by
  unfold piece? at h
  split at h
  · cases h
    exact Nat.lt_succ_self _
  · cases h
    exact Nat.lt_add_of_pos_right Nat.two_pos
  · split at h
    · cases h
      exact Nat.lt_succ_self _
    · cases h
  · cases h

/-- The rest of a string on several lines. Escapes count when `escapes` is set. -/
def manyLines? (quote : Char) (escapes : Bool) (cs : List Char) :
    Option (List Char × List Char) :=
  match closing? quote cs with
  | some closed => some closed
  | none =>
    match cs with
    | [] => none
    | c :: rest =>
      if c = '\\' ∧ escapes then
        match _h : escape? rest with
        | some (c, after) =>
          (manyLines? quote escapes after).map fun (text, rest) => (c :: text, rest)
        | none =>
          match _h' : skipJoint rest with
          | some after => manyLines? quote escapes after
          | none => none
      else
        match _h'' : piece? (c :: rest) with
        | some (piece, after) =>
          (manyLines? quote escapes after).map fun (text, rest) => (piece ++ text, rest)
        | none => none
termination_by cs.length
decreasing_by
  · have := escape?_length _h; simp; omega
  · have := skipJoint_length _h'; simp; omega
  · exact piece?_length _h''

/-- What follows a line break at the head, or everything. -/
def dropBreak (cs : List Char) : List Char :=
  (lineBreak? cs).getD cs

/-- The text of a string on one line, and what follows it. -/
def oneLine? : List Char → Option (List Char × List Char)
  | '"' :: rest => basic? rest
  | '\'' :: rest => literal? rest
  | _ => none

/-- The text of a string, and what follows it. -/
def string? : List Char → Option (List Char × List Char)
  | '"' :: '"' :: '"' :: rest => manyLines? '"' true (dropBreak rest)
  | '\'' :: '\'' :: '\'' :: rest => manyLines? '\'' false (dropBreak rest)
  | rest => oneLine? rest

end SignOn.Document.Toml
