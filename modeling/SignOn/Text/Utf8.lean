/-!
# UTF-8

Bytes of a list of characters, and the reading of arbitrary bytes in which
every maximal ill-formed part becomes one replacement character U+FFFD.
-/

namespace SignOn.Text.Utf8

/-- The character that stands for an ill-formed part. -/
def replacement : Char := Char.ofNat 0xFFFD

/-- Text without a mark of the byte order at its head. -/
def dropMark : List Char → List Char
  | '\uFEFF' :: cs => cs
  | cs => cs

/-- Bytes of one character. -/
def encodeChar (c : Char) : List UInt8 :=
  let n := c.toNat
  if n < 0x80 then [UInt8.ofNat n]
  else if n < 0x800 then
    [UInt8.ofNat (0xC0 + n / 64), UInt8.ofNat (0x80 + n % 64)]
  else if n < 0x10000 then
    [UInt8.ofNat (0xE0 + n / 4096), UInt8.ofNat (0x80 + n / 64 % 64),
      UInt8.ofNat (0x80 + n % 64)]
  else
    [UInt8.ofNat (0xF0 + n / 262144), UInt8.ofNat (0x80 + n / 4096 % 64),
      UInt8.ofNat (0x80 + n / 64 % 64), UInt8.ofNat (0x80 + n % 64)]

/-- Bytes of a list of characters. -/
def encode (cs : List Char) : List UInt8 :=
  cs.flatMap encodeChar

/-- Number of bytes of a text. -/
def size (text : String) : Nat :=
  (encode text.toList).length

/-- Number of continuation bytes after the lead byte `b`, and the interval of
the first of them; `none` for a byte that leads nothing. -/
def tailOf? (b : Nat) : Option (Nat × Nat × Nat) :=
  if 0xC2 ≤ b ∧ b ≤ 0xDF then some (1, 0x80, 0xBF)
  else if b = 0xE0 then some (2, 0xA0, 0xBF)
  else if b = 0xED then some (2, 0x80, 0x9F)
  else if 0xE1 ≤ b ∧ b ≤ 0xEF then some (2, 0x80, 0xBF)
  else if b = 0xF0 then some (3, 0x90, 0xBF)
  else if 0xF1 ≤ b ∧ b ≤ 0xF3 then some (3, 0x80, 0xBF)
  else if b = 0xF4 then some (3, 0x80, 0x8F)
  else none

/-- Bits of the lead byte `b` that belong to the character, when `tail`
continuation bytes follow. -/
def leadBits (tail b : Nat) : Nat :=
  if tail = 1 then b - 0xC0 else if tail = 2 then b - 0xE0 else b - 0xF0

/-- Reads `tail` continuation bytes onto the value `n`, the first of them
between `lo` and `hi`. The character is `none` when the part is ill-formed; the
bytes that follow the part are returned in both cases. -/
def readTail (tail n lo hi : Nat) (bytes : List UInt8) : Option Char × List UInt8 :=
  match tail, bytes with
  | 0, rest => (some (Char.ofNat n), rest)
  | _ + 1, [] => (none, [])
  | tail + 1, b :: rest =>
    if lo ≤ b.toNat ∧ b.toNat ≤ hi then
      readTail tail (n * 64 + (b.toNat - 0x80)) 0x80 0xBF rest
    else (none, b :: rest)

theorem length_readTail_le (tail n lo hi : Nat) (bytes : List UInt8) :
    (readTail tail n lo hi bytes).2.length ≤ bytes.length := by
  induction bytes generalizing tail n lo hi with
  | nil => cases tail <;> simp [readTail]
  | cons b rest ih =>
    cases tail with
    | zero => simp [readTail]
    | succ tail =>
      simp only [readTail]
      split
      · exact Nat.le_succ_of_le (ih ..)
      · exact Nat.le_refl _

/-- The character at the head of the bytes `b :: rest`, `none` for an ill-formed
part, with the bytes that follow it. -/
def next (b : UInt8) (rest : List UInt8) : Option Char × List UInt8 :=
  if b.toNat < 0x80 then (some (Char.ofNat b.toNat), rest)
  else
    match tailOf? b.toNat with
    | none => (none, rest)
    | some (tail, lo, hi) => readTail tail (leadBits tail b.toNat) lo hi rest

theorem length_next_le (b : UInt8) (rest : List UInt8) :
    (next b rest).2.length ≤ rest.length := by
  simp only [next]
  split
  · exact Nat.le_refl _
  · split
    · exact Nat.le_refl _
    · exact length_readTail_le ..

/-- Characters of `bytes`, `none` at every ill-formed part. -/
def parts : List UInt8 → List (Option Char)
  | [] => []
  | b :: rest =>
    have := length_next_le b rest
    (next b rest).1 :: parts (next b rest).2
termination_by bytes => bytes.length

/-- Characters of `bytes`, a replacement character for every ill-formed part. -/
def decodeLossy (bytes : List UInt8) : List Char :=
  (parts bytes).map (·.getD replacement)

/-- Characters of `bytes` when they are well-formed. -/
def decode? (bytes : List UInt8) : Option (List Char) :=
  (parts bytes).foldr (fun part cs => do return (← part) :: (← cs)) (some [])

end SignOn.Text.Utf8
