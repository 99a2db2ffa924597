import RunBoard.Proofs.Text.Percent
import RunBoard.Text.Digits

/-!
# Parameters of a query

A query is split at its ampersands, and each part at its first equals sign; the value of a
parameter is the text that what stands behind the sign is the encoded form of. Parameters whose
values are written as components read back, however these values look.
-/

namespace RunBoard.Url

open Text (Utf8.text? Percent.decode Percent.encodeComponent)

/-- A part of a query as the name that it is given and, where that is one, the text of its
value. -/
def readParameter (part : List Char) : String × Option String :=
  (String.ofList (part.takeWhile (· ≠ '=')),
    Utf8.text? (Percent.decode ((part.dropWhile (· ≠ '=')).drop 1)))

/-- What the parameters of a query are read as, in order. -/
def parameters (query : List Char) : List (String × Option String) :=
  (query.splitOn '&').map readParameter

theorem readParameter_written {name : String} (whole : '=' ∉ name.toList) (value : List Char) :
    readParameter (name.toList ++ '=' :: value) = (name, Utf8.text? (Percent.decode value)) := by
  have named : ∀ c ∈ name.toList, decide (c ≠ '=') = true := by
    intro c member
    exact decide_eq_true fun same => whole (same ▸ member)
  have before : (name.toList ++ '=' :: value).takeWhile (· ≠ '=') = name.toList := by
    rw [List.takeWhile_append_of_pos named, List.takeWhile_cons_of_neg (by simp), List.append_nil]
  have behind : (name.toList ++ '=' :: value).dropWhile (· ≠ '=') = '=' :: value := by
    rw [List.dropWhile_append_of_pos named, List.dropWhile_cons_of_neg (by simp)]
  rw [readParameter, before, behind, String.ofList_toList, List.drop_one, List.tail_cons]

theorem parameters_part {part : List Char} (whole : '&' ∉ part) :
    parameters part = [readParameter part] := by
  have single : (['&'].intercalate [part]).splitOn '&' = [part] :=
    List.splitOn_intercalate '&' (by simpa using whole) (by simp)
  rw [List.intercalate_singleton] at single
  rw [parameters, single]
  rfl

theorem parameters_part_append {part : List Char} (whole : '&' ∉ part) (rest : List Char) :
    parameters (part ++ '&' :: rest) = readParameter part :: parameters rest := by
  rw [parameters, List.splitOn_append_cons_self_of_not_mem whole, List.map_cons, parameters]

theorem parameters_ne_nil (query : List Char) : parameters query ≠ [] := by
  simp [parameters, List.splitOn_ne_nil]

/-- Whether a name can be written as it is. -/
def IsName (name : String) : Prop := '=' ∉ name.toList ∧ '&' ∉ name.toList

instance (name : String) : Decidable (IsName name) :=
  inferInstanceAs (Decidable ('=' ∉ name.toList ∧ '&' ∉ name.toList))

/-- A part is read as one parameter with its text exactly when nothing divides it and its value
stands for that text. -/
theorem parameters_written_iff {name : String} (named : IsName name)
    {value : List Char} {text : String} :
    parameters (name.toList ++ '=' :: value) = [(name, some text)] ↔
      '&' ∉ value ∧ Utf8.text? (Percent.decode value) = some text := by
  constructor
  · intro read
    have whole : '&' ∉ value := by
      intro divided
      obtain ⟨before, after, rfl, first⟩ := List.eq_append_cons_of_mem divided
      have fresh : '&' ∉ name.toList ++ '=' :: before := by
        simp [named.2, first]
      rw [← List.cons_append, ← List.append_assoc, parameters_part_append fresh] at read
      exact parameters_ne_nil after (List.cons.inj read).2
    refine ⟨whole, ?_⟩
    rw [parameters_part (by simp [named.2, whole]), readParameter_written named.1] at read
    simpa using read
  · rintro ⟨whole, stands⟩
    rw [parameters_part (by simp [named.2, whole]), readParameter_written named.1, stands]

/-! ## Encoded values -/

/-- A parameter whose value is written as a component. -/
def encodedParameter (parameter : String × String) : List Char :=
  parameter.1.toList ++ '=' :: (Percent.encodeComponent parameter.2).toList

theorem not_mem_encodeComponent (mark : Char) (marked : Text.Percent.isEncodedChar mark = false)
    (text : String) : mark ∉ (Percent.encodeComponent text).toList := by
  intro member
  rw [Percent.encodeComponent, String.toList_ofList] at member
  rw [Text.Percent.isEncodedChar_of_mem_encode member] at marked
  contradiction

theorem readParameter_encodedParameter {parameter : String × String} (named : IsName parameter.1) :
    readParameter (encodedParameter parameter) = (parameter.1, some parameter.2) := by
  rw [encodedParameter, readParameter_written named.1, Text.Percent.text?_decode_encodeComponent]

theorem whole_encodedParameter {parameter : String × String} (named : IsName parameter.1) :
    '&' ∉ encodedParameter parameter := by
  have plain := not_mem_encodeComponent '&' (by decide) parameter.2
  simp [encodedParameter, named.2, plain]

/-- Parameters with encoded values read as what they are. -/
theorem parameters_encoded {given : List (String × String)} (some : given ≠ [])
    (named : ∀ parameter ∈ given, IsName parameter.1) :
    parameters (['&'].intercalate (given.map encodedParameter)) =
      given.map fun parameter => (parameter.1, .some parameter.2) := by
  have whole : ∀ part ∈ given.map encodedParameter, '&' ∉ part := by
    intro part member
    obtain ⟨parameter, among, rfl⟩ := List.mem_map.1 member
    exact whole_encodedParameter (named parameter among)
  rw [parameters, List.splitOn_intercalate '&' whole (by simpa using some), List.map_map]
  refine List.map_congr_left ?_
  intro parameter among
  exact readParameter_encodedParameter (named parameter among)

/-! ## Numbers -/

theorem isComponentChar_of_isDigit {c : Char} (digit : c.isDigit) :
    Text.Percent.isComponentChar c := by
  simp [Text.Percent.isComponentChar, Char.isAlphanum, digit]

theorem isDigit_of_mem_toString {n : UInt32} {c : Char} (member : c ∈ (toString n).toList) :
    c.isDigit :=
  Text.isDigit_of_mem_toString (n := n.toNat) member

/-- A number is written as a component in its own digits. -/
theorem encodeComponent_toString (n : UInt32) :
    Percent.encodeComponent (toString n) = toString n := by
  have kept : ∀ c ∈ (toString n).toList, Text.Percent.isComponentChar c := fun _ member =>
    isComponentChar_of_isDigit (isDigit_of_mem_toString member)
  rw [Percent.encodeComponent, Text.Percent.encode_of_kept kept, String.ofList_toList]

theorem toString_injective {first second : UInt32} (same : toString first = toString second) :
    first = second :=
  UInt32.toNat_inj.1 (Text.toString_injective same)

end RunBoard.Url
