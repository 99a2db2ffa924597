import RunBoard.Proofs.Text.Percent

/-!
# Bytes that are text

Every character that decoding finds stands there in its only encoded form, so bytes are a
text exactly when they are the bytes of that text.
-/

namespace RunBoard.Text.Utf8

variable {c : Char} {byte : UInt8} {rest : List UInt8}

theorem eq_of_continuation? {low : Nat} (found : continuation? byte = some low) :
    byte.toNat = low + 0x80 ∧ low < 0x40 := by
  unfold continuation? at found
  split at found
  · next within =>
      simp only [Bool.and_eq_true, decide_eq_true_eq, UInt8.le_iff_toNat_le,
        UInt8.lt_iff_toNat_lt, UInt8.reduceToNat] at within
      have same := Option.some.inj found
      omega
  · cases found

theorem toNat_ofNat_of_valid {code : Nat} (valid : code.isValidChar) :
    (Char.ofNat code).toNat = code := by
  rw [Char.ofNat, dif_pos valid]
  rfl

theorem eq_of_scalar? {least code : Nat} (found : scalar? least code = some c) :
    c.toNat = code ∧ least ≤ code := by
  unfold scalar? at found
  split at found
  · next within =>
      simp only [Bool.and_eq_true, Bool.or_eq_true, decide_eq_true_eq] at within
      cases found
      exact ⟨toNat_ofNat_of_valid within.2, within.1⟩
  · cases found

theorem ofNat_eq {a : UInt8} {n : Nat} (value : a.toNat = n) : UInt8.ofNat n = a := by
  rw [← value, UInt8.ofNat_toNat]

-- One lemma for each length, the other way round.

theorem utf8EncodeChar_one {a : UInt8} (ha : a.toNat = c.toNat) (most : c.toNat < 0x80) :
    String.utf8EncodeChar c = [a] := by
  have one : c.toNat ≤ 0x7F := by omega
  rw [show String.utf8EncodeChar c = [UInt8.ofNat c.toNat] from if_pos one, ofNat_eq ha]

theorem utf8EncodeChar_two {a b : UInt8} {high low : Nat}
    (ha : a.toNat = high + 0xC0) (hb : b.toNat = low + 0x80)
    (bounds : high < 0x20 ∧ low < 0x40) (least : 0x80 ≤ c.toNat)
    (code : c.toNat = high * 0x40 + low) : String.utf8EncodeChar c = [a, b] := by
  have one : ¬ c.toNat ≤ 0x7F := by omega
  have two : c.toNat ≤ 0x7FF := by omega
  rw [show String.utf8EncodeChar c =
      [UInt8.ofNat (c.toNat / 64 % 32 + 192), UInt8.ofNat (c.toNat % 64 + 128)] from
    (if_neg one).trans (if_pos two)]
  rw [ofNat_eq (a := a) (by omega), ofNat_eq (a := b) (by omega)]

theorem utf8EncodeChar_three {a b d : UInt8} {high middle low : Nat}
    (ha : a.toNat = high + 0xE0) (hb : b.toNat = middle + 0x80) (hd : d.toNat = low + 0x80)
    (bounds : high < 0x10 ∧ middle < 0x40 ∧ low < 0x40) (least : 0x800 ≤ c.toNat)
    (code : c.toNat = (high * 0x40 + middle) * 0x40 + low) :
    String.utf8EncodeChar c = [a, b, d] := by
  have one : ¬ c.toNat ≤ 0x7F := by omega
  have two : ¬ c.toNat ≤ 0x7FF := by omega
  have three : c.toNat ≤ 0xFFFF := by omega
  rw [show String.utf8EncodeChar c =
      [UInt8.ofNat (c.toNat / 4096 % 16 + 224), UInt8.ofNat (c.toNat / 64 % 64 + 128),
        UInt8.ofNat (c.toNat % 64 + 128)] from
    ((if_neg one).trans (if_neg two)).trans (if_pos three)]
  rw [ofNat_eq (a := a) (by omega), ofNat_eq (a := b) (by omega),
    ofNat_eq (a := d) (by omega)]

theorem utf8EncodeChar_four {a b d e : UInt8} {top high middle low : Nat}
    (ha : a.toNat = top + 0xF0) (hb : b.toNat = high + 0x80) (hd : d.toNat = middle + 0x80)
    (he : e.toNat = low + 0x80)
    (bounds : top < 0x8 ∧ high < 0x40 ∧ middle < 0x40 ∧ low < 0x40) (least : 0x10000 ≤ c.toNat)
    (code : c.toNat = ((top * 0x40 + high) * 0x40 + middle) * 0x40 + low) :
    String.utf8EncodeChar c = [a, b, d, e] := by
  have one : ¬ c.toNat ≤ 0x7F := by omega
  have two : ¬ c.toNat ≤ 0x7FF := by omega
  have three : ¬ c.toNat ≤ 0xFFFF := by omega
  rw [show String.utf8EncodeChar c =
      [UInt8.ofNat (c.toNat / 262144 % 8 + 240), UInt8.ofNat (c.toNat / 4096 % 64 + 128),
        UInt8.ofNat (c.toNat / 64 % 64 + 128), UInt8.ofNat (c.toNat % 64 + 128)] from
    ((if_neg one).trans (if_neg two)).trans (if_neg three)]
  rw [ofNat_eq (a := a) (by omega), ofNat_eq (a := b) (by omega),
    ofNat_eq (a := d) (by omega), ofNat_eq (a := e) (by omega)]

/-- The character that bytes begin with stands there as it is encoded. -/
theorem exists_rest_of_first? {bytes : List UInt8} {length : Nat}
    (found : first? bytes = some (c, length)) :
    ∃ rest, bytes = String.utf8EncodeChar c ++ rest := by
  cases bytes with
  | nil => cases found
  | cons a rest =>
    simp only [first?, UInt8.lt_iff_toNat_lt, UInt8.reduceToNat, Option.pure_def,
      Option.bind_eq_bind] at found
    split at found
    · have code : a.toNat = c.toNat := by
        obtain ⟨rfl, -⟩ := Prod.mk.inj (Option.some.inj found)
        exact (toNat_ofNat_of_valid (.inl (by omega))).symm
      exact ⟨rest, by rw [utf8EncodeChar_one code (by omega)]; rfl⟩
    split at found
    · cases found
    split at found
    · split at found
      · next b rest =>
        obtain ⟨low, second, d, value, same⟩ : ∃ low, continuation? b = some low ∧
            ∃ d, scalar? 0x80 ((a.toNat - 0xC0) * 0x40 + low) = some d ∧ (d, 2) = (c, length) := by
          simpa only [Option.bind_eq_some_iff, Option.some.injEq] using found
        cases same
        obtain ⟨code, least⟩ := eq_of_scalar? value
        obtain ⟨hb, bound⟩ := eq_of_continuation? second
        have ha : a.toNat = (a.toNat - 0xC0) + 0xC0 := by omega
        refine ⟨rest, ?_⟩
        rw [utf8EncodeChar_two ha hb (by omega)
          (by omega) code]
        rfl
      · cases found
    split at found
    · split at found
      · next b d rest =>
        obtain ⟨middle, second, low, third, e, value, same⟩ :
            ∃ middle, continuation? b = some middle ∧ ∃ low, continuation? d = some low ∧
            ∃ e, scalar? 0x800 (((a.toNat - 0xE0) * 0x40 + middle) * 0x40 + low) = some e ∧
              (e, 3) = (c, length) := by
          simpa only [Option.bind_eq_some_iff, Option.some.injEq] using found
        cases same
        obtain ⟨code, least⟩ := eq_of_scalar? value
        obtain ⟨hb, boundB⟩ := eq_of_continuation? second
        obtain ⟨hd, boundD⟩ := eq_of_continuation? third
        have ha : a.toNat = (a.toNat - 0xE0) + 0xE0 := by omega
        refine ⟨rest, ?_⟩
        rw [utf8EncodeChar_three ha hb hd (by omega)
          (by omega) code]
        rfl
      · cases found
    split at found
    · split at found
      · next b d e rest =>
        obtain ⟨high, second, middle, third, low, fourth, f, value, same⟩ :
            ∃ high, continuation? b = some high ∧ ∃ middle, continuation? d = some middle ∧
            ∃ low, continuation? e = some low ∧
            ∃ f, scalar? 0x10000
              ((((a.toNat - 0xF0) * 0x40 + high) * 0x40 + middle) * 0x40 + low) = some f ∧
              (f, 4) = (c, length) := by
          simpa only [Option.bind_eq_some_iff, Option.some.injEq] using found
        cases same
        obtain ⟨code, least⟩ := eq_of_scalar? value
        obtain ⟨hb, boundB⟩ := eq_of_continuation? second
        obtain ⟨hd, boundD⟩ := eq_of_continuation? third
        obtain ⟨he, boundE⟩ := eq_of_continuation? fourth
        have ha : a.toNat = (a.toNat - 0xF0) + 0xF0 := by omega
        refine ⟨rest, ?_⟩
        rw [utf8EncodeChar_four ha hb hd he (by omega)
          (by omega) code]
        rfl
      · cases found
    · cases found

/-- Bytes that decode to characters are what these encode to. -/
theorem encode_of_decode {bytes : List UInt8} {chars : List Char}
    (read : decode bytes = chars.map some) : encode chars = bytes := by
  induction chars generalizing bytes with
  | nil =>
    cases bytes with
    | nil => rfl
    | cons byte rest =>
      rw [decode, decodeFrom] at read
      split at read <;> cases read
  | cons d chars ih =>
    cases bytes with
    | nil => cases read
    | cons byte rest =>
      cases found : first? (byte :: rest) with
      | none =>
        rw [decode, decodeFrom, found] at read
        cases read
      | some first =>
        obtain ⟨rest', bytes⟩ := exists_rest_of_first? found
        rw [bytes, decode_utf8EncodeChar, List.map_cons] at read
        obtain ⟨same, behind⟩ := List.cons.inj read
        rw [bytes, encode_cons, ih behind, Option.some.inj same]

theorem decode_of_decode? {bytes : List UInt8} {chars : List Char}
    (read : decode? bytes = some chars) : decode bytes = chars.map some := by
  unfold decode? at read
  generalize decode bytes = parts at read ⊢
  induction parts generalizing chars with
  | nil =>
    obtain rfl : [] = chars := by simpa using read
    rfl
  | cons first rest ih =>
    simp only [List.mapM_cons, id, Option.bind_eq_bind, Option.bind_eq_some_iff,
      Option.pure_def, Option.some.injEq] at read
    obtain ⟨c, here, chars, behind, rfl⟩ := read
    rw [here, ih behind, List.map_cons]

/-- Bytes are a text exactly when they are the bytes of that text. -/
theorem text?_eq_some_iff {written : List UInt8} {text : String} :
    text? written = some text ↔ written = bytes text := by
  constructor
  · intro read
    obtain ⟨chars, decoded, rfl⟩ := Option.map_eq_some_iff.mp read
    rw [bytes, String.toList_ofList, encode_of_decode (decode_of_decode? decoded)]
  · rintro rfl
    exact text?_bytes text

end RunBoard.Text.Utf8
