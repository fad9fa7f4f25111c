import SignOn.Text.Split

/-!
# Search filters

A filter is a conjunction of components `(key=value)`. A value is escaped, so
that none of its characters ends the component or matches more than itself; the
value `*` alone asks for the presence of the key.
-/

set_option autoImplicit false

namespace SignOn.Directory.Filter

open SignOn.Text

/-- Characters with a meaning in filters. -/
def isSpecial (c : Char) : Bool :=
  c = '\\' || c = '*' || c = '(' || c = ')' || c.toNat = 0

/-- The special characters, one by one. -/
def specials : List Char := ['\\', '*', '(', ')', Char.ofNat 0]

theorem mem_specials_of_isSpecial {c : Char} (h : isSpecial c = true) : c ∈ specials := by
  simp only [isSpecial, Bool.or_eq_true, decide_eq_true_eq] at h
  rcases h with (((rfl | rfl) | rfl) | rfl) | hzero
  · decide
  · decide
  · decide
  · decide
  · have hc : c = Char.ofNat 0 := by rw [← hzero, Char.ofNat_toNat]
    rw [hc]
    decide

/-- A backslash and the two hexadecimal digits of a character below 256. -/
def escaped (c : Char) : List Char :=
  ['\\', hexDigit (c.toNat / 16), hexDigit (c.toNat % 16)]

/-- Written form of one character of a value. -/
def encodeChar (c : Char) : List Char :=
  if isSpecial c then escaped c else [c]

/-- Written form of a value. -/
def encode (value : String) : String :=
  String.ofList (value.toList.flatMap encodeChar)

/-- Written form of one criterion. -/
def component (key value : String) : String :=
  "(" ++ key ++ "=" ++ (if value = "*" then "*" else encode value) ++ ")"

/-- The filter that matches what meets every criterion; without criteria, every
entry. -/
def build (criteria : List (String × String)) : String :=
  "(&" ++ String.join ((if criteria = [] then [("objectclass", "*")] else criteria).map
    fun (key, value) => component key value) ++ ")"

end SignOn.Directory.Filter
