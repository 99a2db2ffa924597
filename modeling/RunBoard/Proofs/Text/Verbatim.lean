import Mathlib.Data.List.Flatten
import RunBoard.Proofs.Text.Percent

/-!
# Texts that are decoded as they are

An encoding that keeps the percent sign cannot be told apart from what it encodes: decoding
gives what decoding the text itself gives. That is the text exactly when no percent sign in it
has two hexadecimal digits behind it.
-/

namespace RunBoard.Text.Percent

def IsHex (c : Char) : Prop := (hexValue? c).isSome = true

/-- Whether a text begins with two hexadecimal digits. -/
def StartsPair (text : List Char) : Prop :=
  ∃ high low rest, IsHex high ∧ IsHex low ∧ text = high :: low :: rest

/-- Whether a percent sign in a text has two hexadecimal digits behind it. -/
def HoldsTriple (text : List Char) : Prop :=
  ∃ high low, IsHex high ∧ IsHex low ∧ ['%', high, low] <:+: text

variable {c high low : Char} {rest text : List Char}

theorem toNat_lt_of_isHex (hex : IsHex c) : c.toNat < 128 := by
  have below {first last : Char} (code : last.toNat < 128) (within : (first ≤ c && c ≤ last) = true) :
      c.toNat < 128 := by
    have most : c ≤ last := of_decide_eq_true (Bool.and_eq_true_iff.1 within).2
    exact Nat.lt_of_le_of_lt (UInt32.le_iff_toNat_le.1 most) code
  unfold IsHex hexValue? at hex
  split at hex
  · next digit => exact below (by decide) digit
  split at hex
  · next upper => exact below (by decide) upper
  split at hex
  · next lower => exact below (by decide) lower
  · cases hex

theorem isAlphanum_of_isHex (hex : IsHex c) : c.isAlphanum = true := by
  have table : ∀ n < 128, IsHex (Char.ofNat n) → (Char.ofNat n).isAlphanum = true := by
    unfold IsHex
    decide
  have := table c.toNat (toNat_lt_of_isHex hex)
  rw [Char.ofNat_toNat] at this
  exact this hex

theorem holdsTriple_cons_iff :
    HoldsTriple (c :: rest) ↔ c = '%' ∧ StartsPair rest ∨ HoldsTriple rest := by
  constructor
  · rintro ⟨high, low, hexHigh, hexLow, inside⟩
    rcases List.infix_cons_iff.1 inside with start | behind
    · obtain ⟨same, pair⟩ := List.cons_prefix_cons.1 start
      obtain ⟨more, rfl⟩ := pair
      exact .inl ⟨same.symm, high, low, more, hexHigh, hexLow, rfl⟩
    · exact .inr ⟨high, low, hexHigh, hexLow, behind⟩
  · rintro (⟨rfl, high, low, more, hexHigh, hexLow, rfl⟩ | ⟨high, low, hexHigh, hexLow, behind⟩)
    · exact ⟨high, low, hexHigh, hexLow, [], more, rfl⟩
    · exact ⟨high, low, hexHigh, hexLow, List.infix_cons behind⟩

/-! ## How decoding goes through a text -/

theorem decode_pair (hexHigh : IsHex high) (hexLow : IsHex low) :
    ∃ byte, ∀ rest, decode ('%' :: high :: low :: rest) = byte :: decode rest := by
  obtain ⟨h, foundHigh⟩ := Option.isSome_iff_exists.1 hexHigh
  obtain ⟨l, foundLow⟩ := Option.isSome_iff_exists.1 hexLow
  exact ⟨UInt8.ofNat (16 * h + l), fun rest => by simp [decode, foundHigh, foundLow]⟩

theorem decode_cons_of_unpaired (unpaired : ¬ (c = '%' ∧ StartsPair rest)) :
    decode (c :: rest) = String.utf8EncodeChar c ++ decode rest := by
  by_cases percent : c = '%'
  · subst percent
    rw [decode.eq_def]
    split
    · contradiction
    · next high low more same =>
      obtain ⟨-, rfl⟩ := List.cons.inj same
      split
      · next h l foundHigh foundLow =>
        refine absurd ⟨rfl, high, low, more, ?_, ?_, rfl⟩ unpaired
        · rw [IsHex, foundHigh, Option.isSome_some]
        · rw [IsHex, foundLow, Option.isSome_some]
      · rfl
    · next same =>
      obtain ⟨rfl, rfl⟩ := List.cons.inj same
      rfl
  · exact decode_cons percent rest

/-- Decoding takes a triple as a whole and goes through the rest character by character. -/
theorem triple_induction {motive : List Char → Prop} (nil : motive [])
    (pair : ∀ high low rest, IsHex high → IsHex low → motive rest →
      motive ('%' :: high :: low :: rest))
    (cons : ∀ c rest, ¬ (c = '%' ∧ StartsPair rest) → motive rest → motive (c :: rest))
    (text : List Char) : motive text := by
  fun_induction decode text with
  | case1 => exact nil
  | case2 high low rest h l foundLow foundHigh ih =>
    refine pair high low rest ?_ ?_ ih
    · rw [IsHex, foundHigh, Option.isSome_some]
    · rw [IsHex, foundLow, Option.isSome_some]
  | case3 high low rest other ih =>
    refine cons '%' (high :: low :: rest) ?_ ih
    rintro ⟨-, _, _, _, hexHigh, hexLow, same⟩
    obtain ⟨rfl, rfl, rfl⟩ : high = _ ∧ low = _ ∧ rest = _ := by simpa using same
    obtain ⟨h, foundHigh⟩ := Option.isSome_iff_exists.1 hexHigh
    obtain ⟨l, foundLow⟩ := Option.isSome_iff_exists.1 hexLow
    exact other h l foundHigh foundLow
  | case4 c rest other ih =>
    refine cons c rest ?_ ih
    rintro ⟨percent, high, low, more, -, -, same⟩
    exact other high low more percent same

/-! ## What decoding makes of a text as it is -/

theorem length_decode_le (text : List Char) :
    (decode text).length ≤ (Utf8.encode text).length := by
  induction text using triple_induction with
  | nil => exact Nat.le_refl _
  | pair high low rest hexHigh hexLow ih =>
    obtain ⟨byte, decoded⟩ := decode_pair hexHigh hexLow
    rw [decoded]
    simp only [Utf8.encode_cons, List.length_cons, List.length_append,
      String.length_utf8EncodeChar]
    have := Char.utf8Size_pos '%'
    omega
  | cons c rest unpaired ih =>
    rw [decode_cons_of_unpaired unpaired, Utf8.encode_cons, List.length_append,
      List.length_append]
    omega

/-- A byte that is found stands for less than the triple that it is found in. -/
theorem length_decode_lt (holds : HoldsTriple text) :
    (decode text).length < (Utf8.encode text).length := by
  induction text using triple_induction with
  | nil =>
    obtain ⟨high, low, -, -, inside⟩ := holds
    simp at inside
  | pair high low rest hexHigh hexLow ih =>
    obtain ⟨byte, decoded⟩ := decode_pair hexHigh hexLow
    rw [decoded]
    have most := length_decode_le rest
    have pos := Char.utf8Size_pos
    simp only [Utf8.encode_cons, List.length_cons, List.length_append,
      String.length_utf8EncodeChar]
    have := pos '%'
    have := pos high
    have := pos low
    omega
  | cons c rest unpaired ih =>
    have behind := (holdsTriple_cons_iff.1 holds).resolve_left unpaired
    rw [decode_cons_of_unpaired unpaired, Utf8.encode_cons, List.length_append,
      List.length_append]
    have := ih behind
    omega

theorem decode_of_not_holdsTriple (free : ¬ HoldsTriple text) :
    decode text = Utf8.encode text := by
  induction text with
  | nil => rfl
  | cons c rest ih =>
    rw [holdsTriple_cons_iff, not_or] at free
    rw [decode_cons_of_unpaired free.1, Utf8.encode_cons, ih free.2]

/-- A text is decoded to itself exactly when there is no triple in it. -/
theorem decode_eq_encode_iff : decode text = Utf8.encode text ↔ ¬ HoldsTriple text := by
  constructor
  · intro same holds
    have less := length_decode_lt holds
    rw [same] at less
    exact Nat.lt_irrefl _ less
  · exact decode_of_not_holdsTriple

theorem holdsTriple_iff : HoldsTriple text ↔ decode text ≠ Utf8.encode text := by
  rw [Ne, decode_eq_encode_iff, Classical.not_not]

instance (text : List Char) : Decidable (HoldsTriple text) := decidable_of_iff' _ holdsTriple_iff

/-- Of all parts of a text only the text itself can be decoded to it. -/
theorem decode_eq_encode_iff_of_sublist {part : List Char} (within : part.Sublist text) :
    decode part = Utf8.encode text ↔ part = text ∧ ¬ HoldsTriple text := by
  constructor
  · intro same
    have most := length_decode_le part
    rw [same] at most
    have bytes : Utf8.encode part = Utf8.encode text :=
      (within.flatMap String.utf8EncodeChar).eq_of_length_le most
    have whole := congrArg Utf8.decode? bytes
    rw [Utf8.decode?_encode, Utf8.decode?_encode] at whole
    obtain rfl := Option.some.inj whole
    exact ⟨rfl, decode_eq_encode_iff.1 same⟩
  · rintro ⟨rfl, free⟩
    exact decode_eq_encode_iff.2 free

/-! ## Encodings that keep the percent sign -/

section Keeping

variable {keep : Char → Bool}

/-- What is not kept is written behind a percent sign. -/
theorem encodeChar_of_not_kept (other : keep c = false) :
    ∃ more, encodeChar keep c = '%' :: more := by
  rw [encodeChar, if_neg (by simp [other])]
  cases bytes : String.utf8EncodeChar c with
  | nil =>
    have size := congrArg List.length bytes
    rw [String.length_utf8EncodeChar] at size
    exact absurd size (Nat.ne_of_gt c.utf8Size_pos)
  | cons byte more => exact ⟨_, rfl⟩

/-- A digit that an encoding begins with is the first character of the text. -/
theorem exists_of_encode_eq_cons (hex : IsHex high) {more : List Char}
    (written : encode keep text = high :: more) :
    ∃ rest, text = high :: rest ∧ encode keep rest = more := by
  cases text with
  | nil => cases written
  | cons c rest =>
    rw [encode_cons] at written
    cases kept : keep c with
    | true =>
      rw [encodeChar, if_pos kept, List.singleton_append] at written
      obtain ⟨rfl, rfl⟩ := List.cons.inj written
      exact ⟨rest, rfl, rfl⟩
    | false =>
      obtain ⟨_, marked⟩ := encodeChar_of_not_kept kept
      rw [marked] at written
      obtain ⟨rfl, -⟩ := List.cons.inj written
      cases hex

theorem startsPair_of_encode (pair : StartsPair (encode keep text)) : StartsPair text := by
  obtain ⟨high, low, more, hexHigh, hexLow, written⟩ := pair
  obtain ⟨rest, rfl, behind⟩ := exists_of_encode_eq_cons hexHigh written
  obtain ⟨rest, rfl, -⟩ := exists_of_encode_eq_cons hexLow behind
  exact ⟨high, low, rest, hexHigh, hexLow, rfl⟩

/-- An encoding that keeps the percent sign and the hexadecimal digits decodes to what the text
decodes to. -/
theorem decode_encode_of_kept (percent : keep '%' = true)
    (digits : ∀ c, IsHex c → keep c = true) (text : List Char) :
    decode (encode keep text) = decode text := by
  induction text using triple_induction with
  | nil => rfl
  | pair high low rest hexHigh hexLow ih =>
    obtain ⟨byte, decoded⟩ := decode_pair hexHigh hexLow
    have written : encode keep ('%' :: high :: low :: rest) =
        '%' :: high :: low :: encode keep rest := by
      simp [encode_cons, encodeChar, percent, digits high hexHigh, digits low hexLow]
    rw [written, decoded, decoded, ih]
  | cons c rest unpaired ih =>
    rw [decode_cons_of_unpaired unpaired, encode_cons, encodeChar]
    split
    · have still : ¬ (c = '%' ∧ StartsPair (encode keep rest)) :=
        fun paired => unpaired ⟨paired.1, startsPair_of_encode paired.2⟩
      rw [List.singleton_append, decode_cons_of_unpaired still, ih]
    · rw [decode_triples, ih]

/-- A character that is kept, and that no triple has, is in an encoding as it is in the text. -/
theorem mem_encode_iff {mark : Char} (kept : keep mark = true)
    (marked : isEncodedChar mark = false) : mark ∈ encode keep text ↔ mark ∈ text := by
  rw [encode, List.mem_flatMap]
  constructor
  · rintro ⟨c, member, written⟩
    unfold encodeChar at written
    split at written
    · rwa [List.mem_singleton.1 written]
    · obtain ⟨byte, -, inside⟩ := List.mem_flatMap.1 written
      rw [isEncodedChar_of_mem_triple inside] at marked
      contradiction
  · intro member
    refine ⟨mark, member, ?_⟩
    rw [encodeChar, if_pos kept]
    exact List.mem_singleton_self mark

end Keeping

end RunBoard.Text.Percent
