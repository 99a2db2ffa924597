import RunBoard.Text.Percent

/-!
# Encoded text reads back

The bytes of a text decode to the text, and so does a component of a URL: what percent
encoding writes is plain ASCII without any character that separates parts of a URL, and
decoding it gives the bytes of the text that was encoded.
-/

namespace RunBoard.Text

/-! ## UTF-8 -/

namespace Utf8

variable {c : Char} {rest : List UInt8}

theorem toNat_lt (c : Char) : c.toNat < 0x110000 := by
  have valid : c.toNat < 0xD800 ∨ 0xDFFF < c.toNat ∧ c.toNat < 0x110000 := c.valid
  omega

theorem toNat_ofNat {n : Nat} (bound : n < 256) : (UInt8.ofNat n).toNat = n := by
  rw [UInt8.toNat_ofNat', Nat.mod_eq_of_lt bound]

theorem scalar?_toNat {least : Nat} (h : least ≤ c.toNat) :
    scalar? least c.toNat = some c := by
  have valid : c.toNat < 0xD800 ∨ 0xDFFF < c.toNat ∧ c.toNat < 0x110000 := c.valid
  simp [scalar?, h, valid, Char.ofNat_toNat]

theorem continuation?_eq {byte : UInt8} {low : Nat} (value : byte.toNat = low + 0x80)
    (bound : low < 0x40) : continuation? byte = some low := by
  simp [continuation?, UInt8.le_iff_toNat_le, UInt8.lt_iff_toNat_lt, value, bound]

-- One lemma for each length. The lead byte decides the length, so the bytes behind the
-- character are never looked at.

theorem first?_one {a : UInt8} (ha : a.toNat = c.toNat) (most : c.toNat < 0x80) :
    first? (a :: rest) = some (c, 1) := by
  simp [first?, UInt8.lt_iff_toNat_lt, ha, most, Char.ofNat_toNat]

theorem first?_two {a b : UInt8} {high low : Nat}
    (ha : a.toNat = high + 0xC0) (hb : b.toNat = low + 0x80)
    (bounds : high < 0x20 ∧ low < 0x40) (least : 0x80 ≤ c.toNat)
    (code : high * 0x40 + low = c.toNat) : first? (a :: b :: rest) = some (c, 2) := by
  have ascii : ¬ high + 0xC0 < 0x80 := by omega
  have lead : high + 0xC0 < 0xE0 := by omega
  simp [first?, UInt8.lt_iff_toNat_lt, ha, ascii, lead, continuation?_eq hb bounds.2, code,
    scalar?_toNat least]

theorem first?_three {a b d : UInt8} {high middle low : Nat}
    (ha : a.toNat = high + 0xE0) (hb : b.toNat = middle + 0x80) (hd : d.toNat = low + 0x80)
    (bounds : high < 0x10 ∧ middle < 0x40 ∧ low < 0x40) (least : 0x800 ≤ c.toNat)
    (code : (high * 0x40 + middle) * 0x40 + low = c.toNat) :
    first? (a :: b :: d :: rest) = some (c, 3) := by
  have ascii : ¬ high + 0xE0 < 0x80 := by omega
  have two : ¬ high + 0xE0 < 0xE0 := by omega
  have lead : high + 0xE0 < 0xF0 := by omega
  simp [first?, UInt8.lt_iff_toNat_lt, ha, ascii, two, lead, continuation?_eq hb bounds.2.1,
    continuation?_eq hd bounds.2.2, code, scalar?_toNat least]

theorem first?_four {a b d e : UInt8} {top high middle low : Nat}
    (ha : a.toNat = top + 0xF0) (hb : b.toNat = high + 0x80) (hd : d.toNat = middle + 0x80)
    (he : e.toNat = low + 0x80)
    (bounds : top < 0x8 ∧ high < 0x40 ∧ middle < 0x40 ∧ low < 0x40) (least : 0x10000 ≤ c.toNat)
    (code : ((top * 0x40 + high) * 0x40 + middle) * 0x40 + low = c.toNat) :
    first? (a :: b :: d :: e :: rest) = some (c, 4) := by
  have ascii : ¬ top + 0xF0 < 0x80 := by omega
  have two : ¬ top + 0xF0 < 0xE0 := by omega
  have three : ¬ top + 0xF0 < 0xF0 := by omega
  have lead : top + 0xF0 < 0xF8 := by omega
  simp [first?, UInt8.lt_iff_toNat_lt, ha, ascii, two, three, lead,
    continuation?_eq hb bounds.2.1, continuation?_eq hd bounds.2.2.1,
    continuation?_eq he bounds.2.2.2, code, scalar?_toNat least]

/-- The bytes of a character read as that character, whatever stands behind them. -/
theorem first?_utf8EncodeChar (c : Char) (rest : List UInt8) :
    first? (String.utf8EncodeChar c ++ rest) =
      some (c, (String.utf8EncodeChar c).length) := by
  have top := toNat_lt c
  by_cases one : c.toNat ≤ 0x7F
  · rw [show String.utf8EncodeChar c = [UInt8.ofNat c.toNat] from if_pos one]
    exact first?_one (toNat_ofNat (by omega)) (by omega)
  by_cases two : c.toNat ≤ 0x7FF
  · rw [show String.utf8EncodeChar c =
        [UInt8.ofNat (c.toNat / 64 % 32 + 192), UInt8.ofNat (c.toNat % 64 + 128)] from
      (if_neg one).trans (if_pos two)]
    exact first?_two (toNat_ofNat (by omega))
      (toNat_ofNat (by omega)) (by omega) (by omega) (by omega)
  by_cases three : c.toNat ≤ 0xFFFF
  · rw [show String.utf8EncodeChar c =
        [UInt8.ofNat (c.toNat / 4096 % 16 + 224), UInt8.ofNat (c.toNat / 64 % 64 + 128),
          UInt8.ofNat (c.toNat % 64 + 128)] from
      ((if_neg one).trans (if_neg two)).trans (if_pos three)]
    exact first?_three (toNat_ofNat (by omega))
      (toNat_ofNat (by omega)) (toNat_ofNat (by omega))
      (by omega) (by omega) (by omega)
  · rw [show String.utf8EncodeChar c =
        [UInt8.ofNat (c.toNat / 262144 % 8 + 240), UInt8.ofNat (c.toNat / 4096 % 64 + 128),
          UInt8.ofNat (c.toNat / 64 % 64 + 128), UInt8.ofNat (c.toNat % 64 + 128)] from
      ((if_neg one).trans (if_neg two)).trans (if_neg three)]
    exact first?_four (toNat_ofNat (by omega))
      (toNat_ofNat (by omega)) (toNat_ofNat (by omega))
      (toNat_ofNat (by omega)) (by omega) (by omega) (by omega)

theorem decodeFrom_append (bytes rest : List UInt8) :
    decodeFrom bytes.length (bytes ++ rest) = decodeFrom 0 rest := by
  induction bytes with
  | nil => rfl
  | cons byte bytes ih => simpa [decodeFrom] using ih

theorem decode_utf8EncodeChar (c : Char) (rest : List UInt8) :
    decode (String.utf8EncodeChar c ++ rest) = some c :: decode rest := by
  have found := first?_utf8EncodeChar c rest
  cases bytes : String.utf8EncodeChar c with
  | nil =>
    have := congrArg List.length bytes
    exact absurd (String.length_utf8EncodeChar c ▸ this) (Nat.ne_of_gt c.utf8Size_pos)
  | cons byte more =>
    rw [bytes] at found
    simp only [List.cons_append, List.length_cons] at found
    simp only [decode, List.cons_append, decodeFrom, found, Nat.add_sub_cancel]
    rw [decodeFrom_append]

theorem decode_encode (chars : List Char) : decode (encode chars) = chars.map some := by
  induction chars with
  | nil => rfl
  | cons c rest ih => rw [encode_cons, decode_utf8EncodeChar, ih, List.map_cons]

theorem decode?_encode (chars : List Char) : decode? (encode chars) = some chars := by
  rw [decode?, decode_encode]
  induction chars with
  | nil => rfl
  | cons c rest ih => simp [ih]

/-- The bytes of a text are the bytes of no other. -/
theorem text?_bytes (text : String) : text? (bytes text) = some text := by
  simp [text?, bytes, decode?_encode]

end Utf8

/-! ## Percent encoding -/

namespace Percent

theorem hexValue?_hexDigit {n : Nat} (bound : n < 16) : hexValue? (hexDigit n) = some n := by
  have table : ∀ n < 16, hexValue? (hexDigit n) = some n := by decide
  exact table n bound

theorem decode_triple (byte : UInt8) (rest : List Char) :
    decode (triple byte ++ rest) = byte :: decode rest := by
  have high : byte.toNat / 16 < 16 := by have := byte.toNat_lt; omega
  have low : byte.toNat % 16 < 16 := Nat.mod_lt _ (by decide)
  have value : 16 * (byte.toNat / 16) + byte.toNat % 16 = byte.toNat := Nat.div_add_mod ..
  simp [triple, decode, hexValue?_hexDigit high, hexValue?_hexDigit low, value]

theorem decode_triples (bytes : List UInt8) (rest : List Char) :
    decode (bytes.flatMap triple ++ rest) = bytes ++ decode rest := by
  induction bytes with
  | nil => rfl
  | cons byte bytes ih =>
    rw [List.flatMap_cons, List.append_assoc, decode_triple, ih, List.cons_append]

theorem decode_cons {c : Char} (plain : c ≠ '%') (rest : List Char) :
    decode (c :: rest) = String.utf8EncodeChar c ++ decode rest := by
  rw [decode.eq_def]
  split
  · contradiction
  · simp_all
  · simp_all

/-- Decoding undoes any encoding that does not keep the percent sign. -/
theorem decode_encode {keep : Char → Bool} (percent : keep '%' = false) (chars : List Char) :
    decode (encode keep chars) = Utf8.encode chars := by
  induction chars with
  | nil => rfl
  | cons c rest ih =>
    rw [encode_cons, Utf8.encode_cons, encodeChar]
    split
    · next kept =>
      have plain : c ≠ '%' := by rintro rfl; simp [percent] at kept
      rw [List.singleton_append, decode_cons plain, ih]
    · rw [decode_triples, ih]

theorem encode_of_kept {keep : Char → Bool} {chars : List Char} (kept : ∀ c ∈ chars, keep c) :
    encode keep chars = chars := by
  induction chars with
  | nil => rfl
  | cons c rest ih =>
    rw [encode_cons, encodeChar, if_pos (kept c List.mem_cons_self),
      ih fun d member => kept d (List.mem_cons_of_mem c member), List.singleton_append]

end Percent

/-! ## Components -/

namespace Percent

/-- A character that an encoded component may consist of. -/
def isEncodedChar (c : Char) : Bool := isComponentChar c || c == '%'

theorem toNat_lt_of_isEncodedChar {c : Char} (encoded : isEncodedChar c) : c.toNat < 128 := by
  have below (last : Char) (code : last.toNat < 128) (within : c.val ≤ last.val) :
      c.toNat < 128 :=
    Nat.lt_of_le_of_lt (UInt32.le_iff_toNat_le.1 within) code
  simp only [isEncodedChar, isComponentChar, Bool.or_eq_true, beq_iff_eq] at encoded
  rcases encoded with
    (((((((((alnum | rfl) | rfl) | rfl) | rfl) | rfl) | rfl) | rfl) | rfl) | rfl) | rfl
  · rcases Bool.or_eq_true_iff.1 alnum with letter | digit
    · rcases Bool.or_eq_true_iff.1 letter with upper | lower
      · exact below 'Z' (by decide) (of_decide_eq_true upper).2
      · exact below 'z' (by decide) (of_decide_eq_true (Bool.and_eq_true_iff.1 lower).2)
    · exact below '9' (by decide) (of_decide_eq_true (Bool.and_eq_true_iff.1 digit).2)
  all_goals decide

/-- What holds of every character below 128 that a component may have holds of all of them. -/
theorem of_isEncodedChar (holds : Char → Bool)
    (table : ∀ n < 128, isEncodedChar (Char.ofNat n) → holds (Char.ofNat n)) {c : Char}
    (encoded : isEncodedChar c) : holds c := by
  have := table c.toNat (toNat_lt_of_isEncodedChar encoded)
  rw [Char.ofNat_toNat] at this
  exact this encoded

theorem isEncodedChar_hexDigit {n : Nat} (bound : n < 16) : isEncodedChar (hexDigit n) := by
  have table : ∀ n < 16, isEncodedChar (hexDigit n) := by decide
  exact table n bound

theorem isEncodedChar_of_mem_triple {c : Char} {byte : UInt8} (member : c ∈ triple byte) :
    isEncodedChar c := by
  have high : byte.toNat / 16 < 16 := by have := byte.toNat_lt; omega
  have low : byte.toNat % 16 < 16 := Nat.mod_lt _ (by decide)
  simp only [triple, List.mem_cons, List.not_mem_nil, or_false] at member
  rcases member with rfl | rfl | rfl
  · rfl
  · exact isEncodedChar_hexDigit high
  · exact isEncodedChar_hexDigit low

theorem isEncodedChar_of_mem_encode {c : Char} {chars : List Char}
    (member : c ∈ encode isComponentChar chars) : isEncodedChar c := by
  obtain ⟨d, -, member⟩ := List.mem_flatMap.1 member
  unfold encodeChar at member
  split at member
  · next kept => simp [isEncodedChar, List.mem_singleton.1 member, kept]
  · obtain ⟨byte, -, member⟩ := List.mem_flatMap.1 member
    exact isEncodedChar_of_mem_triple member

theorem decode_encodeComponent (text : String) :
    decode (encodeComponent text).toList = Utf8.bytes text := by
  rw [encodeComponent, String.toList_ofList, decode_encode (by decide), Utf8.bytes]

/-- An encoded component stands for the text that was encoded. -/
theorem text?_decode_encodeComponent (text : String) :
    Utf8.text? (decode (encodeComponent text).toList) = some text := by
  rw [decode_encodeComponent, Utf8.text?_bytes]

end Percent

/-! ## The alphabet of components -/

namespace Percent

/-- The letters and digits of ASCII, and nine marks. -/
def IsUnreserved (c : Char) : Prop :=
  'A' ≤ c ∧ c ≤ 'Z' ∨ 'a' ≤ c ∧ c ≤ 'z' ∨ '0' ≤ c ∧ c ≤ '9' ∨
    c ∈ ['-', '_', '.', '!', '~', '*', '\'', '(', ')']

instance (c : Char) : Decidable (IsUnreserved c) :=
  inferInstanceAs (Decidable (_ ∧ _ ∨ _ ∧ _ ∨ _ ∧ _ ∨ c ∈ _))

def IsUpperHex (c : Char) : Prop := '0' ≤ c ∧ c ≤ '9' ∨ 'A' ≤ c ∧ c ≤ 'F'

instance (c : Char) : Decidable (IsUpperHex c) := inferInstanceAs (Decidable (_ ∧ _ ∨ _ ∧ _))

/-- Texts of unreserved characters, and of bytes in upper-case hexadecimal, each behind a percent
sign. -/
inductive IsComponent : List Char → Prop where
  | nil : IsComponent []
  | plain {c : Char} {rest : List Char} (unreserved : IsUnreserved c) (behind : IsComponent rest) :
      IsComponent (c :: rest)
  | byte {high low : Char} {rest : List Char} (upper : IsUpperHex high) (lower : IsUpperHex low)
      (behind : IsComponent rest) : IsComponent ('%' :: high :: low :: rest)

theorem isUnreserved_of_isComponentChar {c : Char} (kept : isComponentChar c) :
    IsUnreserved c := by
  have table := of_isEncodedChar (fun c => !isComponentChar c || decide (IsUnreserved c))
    (by decide) (show isEncodedChar c by simp [isEncodedChar, kept])
  simpa [kept] using table

theorem isUpperHex_hexDigit {n : Nat} (bound : n < 16) : IsUpperHex (hexDigit n) := by
  have table : ∀ n < 16, IsUpperHex (hexDigit n) := by decide
  exact table n bound

theorem IsComponent.triple (byte : UInt8) {rest : List Char} (behind : IsComponent rest) :
    IsComponent (Percent.triple byte ++ rest) := by
  have high : byte.toNat / 16 < 16 := by have := byte.toNat_lt; omega
  have low : byte.toNat % 16 < 16 := Nat.mod_lt _ (by decide)
  exact .byte (isUpperHex_hexDigit high) (isUpperHex_hexDigit low) behind

theorem IsComponent.triples (bytes : List UInt8) {rest : List Char} (behind : IsComponent rest) :
    IsComponent (bytes.flatMap Percent.triple ++ rest) := by
  induction bytes with
  | nil => exact behind
  | cons byte bytes ih =>
    rw [List.flatMap_cons, List.append_assoc]
    exact ih.triple byte

/-- Whatever the text is, its encoded form is made of the alphabet of components. -/
theorem isComponent_encodeComponent (text : String) :
    IsComponent (encodeComponent text).toList := by
  rw [encodeComponent, String.toList_ofList]
  induction text.toList with
  | nil => exact .nil
  | cons c rest ih =>
    rw [encode_cons, encodeChar]
    split
    · next kept => exact .plain (isUnreserved_of_isComponentChar kept) ih
    · exact ih.triples _

end Percent

end RunBoard.Text
