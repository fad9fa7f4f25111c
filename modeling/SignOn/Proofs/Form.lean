import SignOn.Proofs.Text
import SignOn.Url.Query

/-!
# Form coding reads back

What form coding writes is read back as it was: the bytes of a text
(`decodeLossy_encode`), one name or value (`decode_encode`), and pairs after a query that
is there already (`decodeAll_extendQuery`). No written name or value holds a character that
delimits pairs, queries or fragments (`not_mem_delimiters`).
-/

set_option autoImplicit false

namespace SignOn

open SignOn.Text

/-! ## Bytes of characters -/

namespace Text.Utf8

/-- Reading one more byte within its bounds. -/
theorem readTail_continuation {tail n lo hi k : Nat} (rest : List UInt8)
    (hlo : lo ≤ 0x80 + k % 64) (hhi : 0x80 + k % 64 ≤ hi) :
    readTail (tail + 1) n lo hi (UInt8.ofNat (0x80 + k % 64) :: rest) =
      readTail tail (n * 64 + k % 64) 0x80 0xBF rest := by
  have hbyte : (UInt8.ofNat (0x80 + k % 64)).toNat = 0x80 + k % 64 := by
    rw [UInt8.toNat_ofNat']
    omega
  rw [readTail, hbyte, if_pos ⟨hlo, hhi⟩, Nat.add_sub_cancel_left]

/-- Reading the rest of a character after its lead byte. -/
theorem next_of_tailOf? {lead tail lo hi : Nat} (hlow : 0x80 ≤ lead) (hhigh : lead < 256)
    (h : tailOf? lead = some (tail, lo, hi)) (rest : List UInt8) :
    next (UInt8.ofNat lead) rest = readTail tail (leadBits tail lead) lo hi rest := by
  have hlead : (UInt8.ofNat lead).toNat = lead := by
    rw [UInt8.toNat_ofNat']
    omega
  rw [next, hlead, if_neg (Nat.not_lt.mpr hlow), h]

section Leads

variable {n : Nat}

theorem tailOf?_two (hlow : 0x80 ≤ n) (hhigh : n < 0x800) :
    tailOf? (0xC0 + n / 64) = some (1, 0x80, 0xBF) := by
  rw [tailOf?, if_pos (by omega)]

/-- The second of three bytes is within the bounds that the first one gives. -/
theorem tailOf?_three (hlow : 0x800 ≤ n) (hhigh : n < 0x10000)
    (hvalid : n < 0xD800 ∨ 0xDFFF < n) : ∃ lo hi, tailOf? (0xE0 + n / 4096) = some (2, lo, hi) ∧
      lo ≤ 0x80 + n / 64 % 64 ∧ 0x80 + n / 64 % 64 ≤ hi := by
  rw [tailOf?, if_neg (by omega)]
  split
  · exact ⟨_, _, rfl, by omega, by omega⟩
  · split
    · exact ⟨_, _, rfl, by omega, by omega⟩
    · rw [if_pos (by omega)]
      exact ⟨_, _, rfl, by omega, by omega⟩

/-- The second of four bytes is within the bounds that the first one gives. -/
theorem tailOf?_four (hlow : 0x10000 ≤ n) (hhigh : n < 0x110000) :
    ∃ lo hi, tailOf? (0xF0 + n / 262144) = some (3, lo, hi) ∧
      lo ≤ 0x80 + n / 4096 % 64 ∧ 0x80 + n / 4096 % 64 ≤ hi := by
  rw [tailOf?, if_neg (by omega), if_neg (by omega), if_neg (by omega), if_neg (by omega)]
  split
  · exact ⟨_, _, rfl, by omega, by omega⟩
  · split
    · exact ⟨_, _, rfl, by omega, by omega⟩
    · rw [if_pos (by omega)]
      exact ⟨_, _, rfl, by omega, by omega⟩

end Leads

/-- The bytes of a character read as it, whatever follows them. -/
theorem parts_encodeChar_append (c : Char) (rest : List UInt8) :
    parts (encodeChar c ++ rest) = some c :: parts rest := by
  have hvalid : c.toNat < 0xD800 ∨ (0xDFFF < c.toNat ∧ c.toNat < 0x110000) := c.valid
  have hread : Char.ofNat c.toNat = c := Char.ofNat_toNat c
  have hnext {b : UInt8} {bytes : List UInt8} (h : next b bytes = (some (Char.ofNat c.toNat), rest)) :
      parts (b :: bytes) = some c :: parts rest := by
    rw [parts, h, hread]
  simp only [encodeChar]
  split
  · next hone =>
      have hbyte : (UInt8.ofNat c.toNat).toNat = c.toNat := by
        rw [UInt8.toNat_ofNat']
        omega
      apply hnext
      rw [next, hbyte, if_pos hone]
      rfl
  · split
    · next hone htwo =>
        have hvalue : leadBits 1 (0xC0 + c.toNat / 64) * 64 + c.toNat % 64 = c.toNat := by
          rw [leadBits, if_pos rfl]
          omega
        simp only [List.cons_append, List.nil_append]
        apply hnext
        rw [next_of_tailOf? (by omega) (by omega) (tailOf?_two (by omega) htwo),
          readTail_continuation _ (by omega) (by omega), hvalue, readTail]
    · split
      · next hone htwo hthree =>
          obtain ⟨lo, hi, hlead, hlo, hhi⟩ := tailOf?_three (by omega) hthree (by omega)
          have hvalue : (leadBits 2 (0xE0 + c.toNat / 4096) * 64 + c.toNat / 64 % 64) * 64 +
              c.toNat % 64 = c.toNat := by
            rw [leadBits, if_neg (by decide), if_pos rfl]
            omega
          simp only [List.cons_append, List.nil_append]
          apply hnext
          rw [next_of_tailOf? (by omega) (by omega) hlead, readTail_continuation _ hlo hhi,
            readTail_continuation _ (by omega) (by omega), hvalue, readTail]
      · next hone htwo hthree =>
          obtain ⟨lo, hi, hlead, hlo, hhi⟩ := tailOf?_four (n := c.toNat) (by omega) (by omega)
          have hvalue : ((leadBits 3 (0xF0 + c.toNat / 262144) * 64 + c.toNat / 4096 % 64) * 64 +
              c.toNat / 64 % 64) * 64 + c.toNat % 64 = c.toNat := by
            rw [leadBits, if_neg (by decide), if_neg (by decide)]
            omega
          simp only [List.cons_append, List.nil_append]
          apply hnext
          rw [next_of_tailOf? (by omega) (by omega) hlead, readTail_continuation _ hlo hhi,
            readTail_continuation _ (by omega) (by omega),
            readTail_continuation _ (by omega) (by omega), hvalue, readTail]

/-- The bytes of a text read as it. -/
theorem decodeLossy_encode (cs : List Char) : decodeLossy (encode cs) = cs := by
  have hparts : parts (encode cs) = cs.map some := by
    induction cs with
    | nil => rw [encode, List.flatMap_nil, parts, List.map_nil]
    | cons c cs ih =>
        rw [encode, List.flatMap_cons, parts_encodeChar_append, ← encode, ih, List.map_cons]
  rw [decodeLossy, hparts, List.map_map]
  exact List.map_id cs

end Text.Utf8

/-! ## Names and values -/

namespace Form

/-- Characters that stand between pairs, between a name and its value, and around queries. -/
def delimiters : List Char := ['&', '=', '?', '#']

/-- How a character is read before escapes are. -/
def plusToSpace (c : Char) : Char := if c = '+' then ' ' else c

/-- A statement about bytes that holds of every value of a byte. -/
theorem forall_byte {P : UInt8 → Prop} (h : ∀ n ∈ List.range 256, P (UInt8.ofNat n)) (b : UInt8) :
    P b := by
  have hb := h b.toNat (List.mem_range.mpr b.toNat_lt)
  rwa [UInt8.ofNat_toNat] at hb

/-- A digit is read as its value. -/
theorem hexValue?_upperHexDigit {n : Nat} (h : n < 16) :
    hexValue? (upperHexDigit n) = some n ∧ plusToSpace (upperHexDigit n) = upperHexDigit n := by
  have hall : ∀ m ∈ List.range 16, hexValue? (upperHexDigit m) = some m ∧
      plusToSpace (upperHexDigit m) = upperHexDigit m := by decide
  exact hall n (List.mem_range.mpr h)

/-- A byte that stands for itself is the only one of its character. -/
theorem encodeChar_of_isPlain (b : UInt8) (h : isPlain b = true) :
    Utf8.encodeChar (plusToSpace (Char.ofNat b.toNat)) = [b] ∧
      plusToSpace (Char.ofNat b.toNat) ≠ '%' := by
  have hall := forall_byte (P := fun b => isPlain b = true →
    Utf8.encodeChar (plusToSpace (Char.ofNat b.toNat)) = [b] ∧
      plusToSpace (Char.ofNat b.toNat) ≠ '%') (by decide +kernel)
  exact hall b h

theorem percentDecode_cons {c : Char} (h : c ≠ '%') (rest : List Char) :
    percentDecode (c :: rest) = Utf8.encodeChar c ++ percentDecode rest := by
  cases rest with
  | nil => simp [percentDecode]
  | cons a rest =>
    cases rest with
    | nil => simp [percentDecode]
    | cons b rest => simp [percentDecode, h]

theorem percentDecode_escape {high low : Char} {hi lo : Nat} (hhigh : hexValue? high = some hi)
    (hlow : hexValue? low = some lo) (rest : List Char) :
    percentDecode ('%' :: high :: low :: rest) = UInt8.ofNat (hi * 16 + lo) :: percentDecode rest := by
  rw [percentDecode, hhigh, hlow]

/-- A written byte is read as it, whatever follows. -/
theorem percentDecode_encodeByte (b : UInt8) (rest : List Char) :
    percentDecode ((encodeByte b ++ rest).map plusToSpace) =
      b :: percentDecode (rest.map plusToSpace) := by
  rw [encodeByte]
  split
  · next hplain =>
      obtain ⟨hbyte, hchar⟩ := encodeChar_of_isPlain b hplain
      rw [List.singleton_append, List.map_cons, percentDecode_cons hchar, hbyte,
        List.singleton_append]
  · split
    · next hspace =>
        subst hspace
        rw [List.singleton_append, List.map_cons, percentDecode_cons (by decide)]
        rfl
    · have hbyte := b.toNat_lt
      obtain ⟨hhigh, hkeptHigh⟩ := hexValue?_upperHexDigit (n := b.toNat / 16) (by omega)
      obtain ⟨hlow, hkeptLow⟩ := hexValue?_upperHexDigit (n := b.toNat % 16) (by omega)
      have hvalue : b.toNat / 16 * 16 + b.toNat % 16 = b.toNat := by omega
      simp only [escapeByte, List.cons_append, List.nil_append, List.map_cons, hkeptHigh, hkeptLow]
      rw [show plusToSpace '%' = '%' from rfl, percentDecode_escape hhigh hlow, hvalue,
        UInt8.ofNat_toNat]

/-- A written name or value is read as it was. -/
theorem decode_encode (text : String) : decode (encode text) = text := by
  have hbytes (bytes : List UInt8) :
      percentDecode ((bytes.flatMap encodeByte).map plusToSpace) = bytes := by
    induction bytes with
    | nil => rw [List.flatMap_nil, List.map_nil, percentDecode]
    | cons b bytes ih => rw [List.flatMap_cons, percentDecode_encodeByte, ih]
  have hchars : decodeChars (encodeChars text.toList) = text.toList :=
    (congrArg Utf8.decodeLossy (hbytes _)).trans (Utf8.decodeLossy_encode _)
  rw [decode, encode, String.toList_ofList, hchars, String.ofList_toList]

/-- No delimiter stands in a written name or value. -/
theorem not_mem_delimiters {text : String} {c : Char} (h : c ∈ (encode text).toList) :
    c ∉ delimiters := by
  have hbyte := forall_byte (P := fun b => (encodeByte b).all (· ∉ delimiters) = true)
    (by decide +kernel)
  rw [encode, String.toList_ofList, encodeChars, List.mem_flatMap] at h
  obtain ⟨b, -, hc⟩ := h
  exact of_decide_eq_true (List.all_eq_true.mp (hbyte b) c hc)

/-! ## Pairs -/

/-- A name with its value is read as the pair it was. -/
theorem decodePair_encodePair (name value : String) :
    decodePair (encodePair name value).toList = (name, value) := by
  have hname : '=' ∉ (encode name).toList := fun h => not_mem_delimiters h (by decide)
  have hcut : splitFirst? '=' (encodePair name value).toList =
      some ((encode name).toList, (encode value).toList) := by
    apply splitFirst?_eq_some_iff.mpr
    simp [encodePair, hname]
  have hread (text : String) : String.ofList (decodeChars (encode text).toList) = text :=
    decode_encode text
  rw [decodePair, hcut]
  exact Prod.ext (hread name) (hread value)

/-- The pairs of a query are those before a separator and those after it. -/
theorem decodeAll_append (before after : String) :
    decodeAll (before ++ "&" ++ after) = decodeAll before ++ decodeAll after := by
  have hsplit : splitAll '&' (before ++ "&" ++ after).toList =
      splitAll '&' before.toList ++ splitAll '&' after.toList := by
    rw [← splitAll_append]
    simp
  rw [decodeAll, hsplit, List.filter_append, List.map_append]
  rfl

/-- A query of one written pair. -/
theorem decodeAll_encodePair (name value : String) :
    decodeAll (encodePair name value) = [(name, value)] := by
  have hname : '&' ∉ (encode name).toList := fun h => not_mem_delimiters h (by decide)
  have hvalue : '&' ∉ (encode value).toList := fun h => not_mem_delimiters h (by decide)
  have hpair : '&' ∉ (encodePair name value).toList := by
    simp [encodePair, hname, hvalue]
  have hne : (encodePair name value).toList ≠ [] := by simp [encodePair]
  rw [decodeAll, splitAll_of_not_mem hpair]
  simp [hne, decodePair_encodePair]

/-- The pairs of texts with separators between them. -/
theorem decodeAll_joined (texts : List String) :
    decodeAll (joined "&" texts) = texts.flatMap decodeAll := by
  -- as `joined` goes: nothing, a last text, a text with another one after it
  induction texts with
  | nil => rfl
  | cons text texts ih =>
      cases texts with
      | nil => simp [joined]
      | cons next texts =>
          rw [joined, decodeAll_append, ih]
          rfl

end Form

namespace Url

/-- Pairs that are written after a query are read after those of the query. -/
theorem decodeAll_extendQuery (query : String) (pairs : List (String × String)) :
    Form.decodeAll (extendQuery query pairs) = Form.decodeAll query ++ pairs := by
  have hpairs : (pairs.map fun pair => Form.encodePair pair.1 pair.2).flatMap
      Form.decodeAll = pairs := by
    induction pairs with
    | nil => rfl
    | cons pair pairs ih =>
        rw [List.map_cons, List.flatMap_cons, Form.decodeAll_encodePair, ih,
          List.singleton_append]
  rw [extendQuery]
  split
  · next hquery =>
      rw [pairsText, Form.decodeAll_joined, hquery]
      exact hpairs
  · rw [Form.decodeAll_joined, List.flatMap_cons]
    exact congrArg (Form.decodeAll query ++ ·) hpairs

/-- What is written after a query brings no number sign into it. -/
theorem not_mem_extendQuery {query : String} (h : '#' ∉ query.toList)
    (pairs : List (String × String)) : '#' ∉ (extendQuery query pairs).toList := by
  have htexts : ∀ text ∈ pairs.map fun pair => Form.encodePair pair.1 pair.2,
      '#' ∉ text.toList := by
    intro text htext
    obtain ⟨pair, -, rfl⟩ := List.mem_map.mp htext
    have hout (part : String) : '#' ∉ (Form.encode part).toList :=
      fun hmem => Form.not_mem_delimiters hmem (by decide)
    simp [Form.encodePair, hout]
  intro hmem
  rw [extendQuery] at hmem
  split at hmem
  · rcases mem_joined hmem with hsep | ⟨text, htext, hin⟩
    · exact absurd hsep (by decide)
    · exact htexts text htext hin
  · rcases mem_joined hmem with hsep | ⟨text, htext, hin⟩
    · exact absurd hsep (by decide)
    · rcases List.mem_cons.mp htext with rfl | hpair
      · exact h hin
      · exact htexts text hpair hin

end Url

end SignOn
