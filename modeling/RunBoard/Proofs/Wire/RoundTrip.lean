import RunBoard.Proofs.Json.Members
import RunBoard.Wire.Models

/-!
# What is written reads back

A schema is lawful when its parts are and nothing that it writes stands for something else:
an unset option for a value that is written as null, a member for one of the same name, an
omitted field for its default. Every value of a lawful schema is read back from what is
written of it, and every schema of the gateway is lawful.
-/

namespace RunBoard.Wire

/-! ## Lawful schemas -/

/-- Whether nothing is written as null. -/
def Schema.NeverNull {α : Type} : Schema α → Prop
  | .scalar form => ∀ value, form.write value ≠ .null
  | .list _ | .keyed _ | .names _ _ | .record _ _ _ _ => True
  | .json | .optional _ | .tagged _ => False

/-- The names of the fields, in order. -/
def Fields.names {γ σ : Type} : Fields γ σ → List String
  | .done => []
  | .field name _ _ rest => name :: rest.names

/-- Whether some alternative takes a value. -/
def Cases.Takes {α : Type} : Cases α → α → Prop
  | .done, _ => False
  | .case _ _ _ project rest, value => (project value).isSome = true ∨ rest.Takes value

mutual

/-- Whether what a schema writes can stand for one value only. -/
def Schema.Lawful {α : Type} : Schema α → Prop
  | .scalar form => ∀ value, form.read (form.write value) = .ok value
  | .json => True
  | .optional inner => inner.Lawful ∧ inner.NeverNull
  | .list inner => inner.Lawful
  | .keyed inner => inner.Lawful
  | .names known nameOf => ∀ value, findName (nameOf value) known = some value
  | .tagged cases => cases.Lawful ∧ cases.tags.Nodup ∧ ∀ value, cases.Takes value
  | .record _ fields make parts =>
      fields.Lawful ∧ fields.names.Nodup ∧ ∀ value, make (parts value) = value

/-- A field is omitted only where reading puts the same value in its place. -/
def Fields.Lawful {γ σ : Type} : Fields γ σ → Prop
  | .done => True
  | .field _ rule schema rest =>
      schema.Lawful ∧ (∀ value, rule.omitted value = true → rule.absent = some value) ∧ rest.Lawful

def Cases.Lawful {α : Type} : Cases α → Prop
  | .done => True
  | .case _ payload inject project rest =>
      payload.Lawful ∧ (∀ value inner, project value = some inner → inject inner = value) ∧
        rest.Lawful

end

theorem encode_ne_null {α : Type} {schema : Schema α} (never : schema.NeverNull) (value : α) :
    encode schema value ≠ .null := by
  cases schema with
  | scalar form => exact never value
  | json => exact never.elim
  | optional inner => exact never.elim
  | list inner => simp [encode]
  | keyed inner => simp [encode]
  | names known nameOf => simp [encode]
  | tagged cases => exact never.elim
  | record name fields make parts => simp [encode, Json.ofMembers]

/-! ## Lists -/

theorem mapM_map {α β ε : Type} (write : α → β) (read : β → Except ε α)
    (reads : ∀ value, read (write value) = .ok value) (values : List α) :
    (values.map write).mapM read = .ok values := by
  induction values with
  | nil => rfl
  | cons value rest ih =>
      rw [List.map_cons, List.mapM_cons, reads, ih]
      rfl

/-! ## Fields -/

namespace Fields

variable {γ σ : Type}

/-- Whether every field reads back what is written of it. -/
def ReadBack {γ σ : Type} : Fields γ σ → Prop
  | .done => True
  | .field _ _ schema rest =>
      (∀ value, decode schema (encode schema value) = .ok value) ∧ rest.ReadBack

/-- The slots when the fields with these names have been read. -/
def slotsOf {γ σ : Type} : Fields γ σ → γ → List String → σ
  | .done, _, _ => ()
  | .field name _ _ rest, (value, values), seen =>
      (if name ∈ seen then some value else none, rest.slotsOf values seen)

/-- Whether a member holds what is written of the field of its name, if there is one. -/
def Fits {γ σ : Type} : Fields γ σ → γ → String × Json → Prop
  | .done, _, _ => True
  | .field name _ schema rest, (value, values), member =>
      (name = member.1 → member.2 = encode schema value) ∧ rest.Fits values member

/-- Whether no field is without a member but those that may be omitted. -/
def Complete {γ σ : Type} : Fields γ σ → γ → List String → Prop
  | .done, _, _ => True
  | .field name rule _ rest, (value, values), seen =>
      (name ∈ seen ∨ rule.omitted value = true) ∧ rest.Complete values seen

theorem slotsOf_nil {γ σ : Type} : (fields : Fields γ σ) → (values : γ) →
    fields.slotsOf values [] = fields.emptySlots
  | .done, _ => rfl
  | .field name rule schema rest, (value, values) => by
      rw [slotsOf, slotsOf_nil rest values, if_neg List.not_mem_nil, emptySlots]

/-- A member that no field has the name of leaves the slots as they are. -/
theorem slotsOf_concat_of_not_mem {γ σ : Type} : (fields : Fields γ σ) → (values : γ) →
    (seen : List String) → {key : String} → key ∉ fields.names →
    fields.slotsOf values (seen ++ [key]) = fields.slotsOf values seen
  | .done, _, _, _, _ => rfl
  | .field name rule schema rest, (value, values), seen, key, unknown => by
      obtain ⟨other, later⟩ := not_or.mp (mt List.mem_cons.mpr unknown)
      have same : name ∈ seen ++ [key] ↔ name ∈ seen := by
        simp [List.mem_append, Ne.symm other]
      simp only [slotsOf, same, slotsOf_concat_of_not_mem rest values seen later]

/-- A member that fits is put where the field of its name is. -/
theorem decodeField_slotsOf {γ σ : Type} : (fields : Fields γ σ) → (values : γ) →
    fields.ReadBack → fields.names.Nodup → (member : String × Json) →
    fields.Fits values member → (seen : List String) →
    decodeField fields member.1 member.2 (fields.slotsOf values seen) =
      .ok (fields.slotsOf values (seen ++ [member.1]))
  | .done, _, _, _, _, _, _ => rfl
  | .field name rule schema rest, (value, values), reads, distinct, member, fits, seen => by
      obtain ⟨fresh, distinct⟩ := List.nodup_cons.mp distinct
      by_cases same : name = member.1
      · have written := reads.1 value
        rw [← fits.1 same] at written
        have kept := slotsOf_concat_of_not_mem rest values seen (same ▸ fresh)
        have seenNow : name ∈ seen ++ [member.1] := by simp [same]
        simp only [slotsOf, decodeField, if_pos same, if_pos seenNow, written, kept]
        rfl
      · have later := decodeField_slotsOf rest values reads.2 distinct member fits.2 seen
        have unmoved : name ∈ seen ++ [member.1] ↔ name ∈ seen := by
          simp [List.mem_append, same]
        simp only [slotsOf, decodeField, if_neg same, later, unmoved]
        rfl

/-- When every field that is not left out has been seen, the slots hold the values. -/
theorem fill_slotsOf {γ σ : Type} : (fields : Fields γ σ) → (values : γ) → fields.Lawful →
    (seen : List String) → fields.Complete values seen →
    fields.fill (fields.slotsOf values seen) = .ok values
  | .done, _, _, _, _ => rfl
  | .field name rule schema rest, (value, values), law, seen, complete => by
      have later := fill_slotsOf rest values law.2.2 seen complete.2
      by_cases present : name ∈ seen
      · simp only [slotsOf, if_pos present, fill, later]
        rfl
      · have omitted := complete.1.resolve_left present
        simp only [slotsOf, if_neg present, fill, law.2.1 value omitted, later]
        rfl

theorem fits_of_not_mem {γ σ : Type} : (fields : Fields γ σ) → (values : γ) →
    (member : String × Json) → member.1 ∉ fields.names → fields.Fits values member
  | .done, _, _, _ => trivial
  | .field name rule schema rest, (value, values), member, unknown => by
      obtain ⟨other, later⟩ := not_or.mp (mt List.mem_cons.mpr unknown)
      exact ⟨fun same => absurd same.symm other, fits_of_not_mem rest values member later⟩

/-- What is written of the fields has their names. -/
theorem names_of_mem_encodeFields {γ σ : Type} : (fields : Fields γ σ) → (values : γ) →
    {member : String × Json} → member ∈ encodeFields fields values → member.1 ∈ fields.names
  | .done, _, _, inside => nomatch inside
  | .field name rule schema rest, (value, values), member, inside => by
      rw [encodeFields] at inside
      split at inside
      · exact List.mem_cons_of_mem _ (names_of_mem_encodeFields rest values inside)
      · rcases List.mem_cons.mp inside with rfl | later
        · exact List.mem_cons_self
        · exact List.mem_cons_of_mem _ (names_of_mem_encodeFields rest values later)

theorem fits_of_mem_encodeFields {γ σ : Type} : (fields : Fields γ σ) → (values : γ) →
    fields.names.Nodup → {member : String × Json} → member ∈ encodeFields fields values →
    fields.Fits values member
  | .done, _, _, _, inside => nomatch inside
  | .field name rule schema rest, (value, values), distinct, member, inside => by
      obtain ⟨fresh, distinct⟩ := List.nodup_cons.mp distinct
      have behind (later : member ∈ encodeFields rest values) :
          Fits (.field name rule schema rest) (value, values) member := by
        refine ⟨fun same => ?_, fits_of_mem_encodeFields rest values distinct later⟩
        exact absurd (same ▸ names_of_mem_encodeFields rest values later) fresh
      rw [encodeFields] at inside
      split at inside
      · exact behind inside
      · rcases List.mem_cons.mp inside with rfl | later
        · exact ⟨fun _ => rfl, fits_of_not_mem rest values _ fresh⟩
        · exact behind later

theorem complete_of_encodeFields {γ σ : Type} : (fields : Fields γ σ) → (values : γ) →
    {seen : List String} → (∀ member ∈ encodeFields fields values, member.1 ∈ seen) →
    fields.Complete values seen
  | .done, _, _, _ => trivial
  | .field name rule schema rest, (value, values), seen, known => by
      rw [encodeFields] at known
      split at known
      · next omitted => exact ⟨.inr omitted, complete_of_encodeFields rest values known⟩
      · refine ⟨.inl (known _ List.mem_cons_self), complete_of_encodeFields rest values ?_⟩
        exact fun member inside => known member (List.mem_cons_of_mem _ inside)

theorem foldlM_slotsOf (fields : Fields γ σ) (values : γ) (reads : fields.ReadBack)
    (distinct : fields.names.Nodup) (members : List (String × Json))
    (fits : ∀ member ∈ members, fields.Fits values member) (seen : List String) :
    members.foldlM (fun slots (member : String × Json) =>
        decodeField fields member.1 member.2 slots) (fields.slotsOf values seen) =
      .ok (fields.slotsOf values (seen ++ members.map Prod.fst)) := by
  induction members generalizing seen with
  | nil => simp; rfl
  | cons member rest ih =>
      have put := decodeField_slotsOf fields values reads distinct member
        (fits member List.mem_cons_self) seen
      have later := ih (fun other inside => fits other (List.mem_cons_of_mem _ inside))
        (seen ++ [member.1])
      rw [List.append_assoc] at later
      rw [List.foldlM_cons, put]
      exact later

end Fields

/-- A record is read back when its fields are. -/
theorem decode_encode_record {α γ σ : Type} (name : String) (fields : Fields γ σ) (make : γ → α)
    (parts : α → γ) (law : fields.Lawful) (reads : fields.ReadBack)
    (distinct : fields.names.Nodup) (whole : ∀ value, make (parts value) = value) (value : α) :
    decode (.record name fields make parts) (encode (.record name fields make parts) value) =
      .ok value := by
  obtain ⟨sorted, written, among, kept⟩ := Json.exists_ofMembers (encodeFields fields (parts value))
  have fits : ∀ member ∈ sorted, fields.Fits (parts value) member := fun member inside =>
    fields.fits_of_mem_encodeFields (parts value) distinct (among member inside)
  have complete : fields.Complete (parts value) (sorted.map Prod.fst) :=
    fields.complete_of_encodeFields (parts value) kept
  have collected := fields.foldlM_slotsOf (parts value) reads distinct sorted fits []
  rw [fields.slotsOf_nil, List.nil_append] at collected
  have filled := fields.fill_slotsOf (parts value) law (sorted.map Prod.fst) complete
  simp only [encode, written, decode, collected]
  calc
    (do return make (← fields.fill (fields.slotsOf (parts value) (sorted.map Prod.fst))) :
        Except DecodeError α) = .ok (make (parts value)) := by rw [filled]; rfl
    _ = .ok value := by rw [whole]

/-! ## Alternatives -/

namespace Cases

/-- Whether every alternative reads back what is written of it. -/
def ReadBack {α : Type} : Cases α → Prop
  | .done => True
  | .case _ payload _ _ rest =>
      (∀ value, decode payload (encode payload value) = .ok value) ∧ rest.ReadBack

/-- A value that some alternative takes is read back by the first one that does. -/
theorem decodeCase_encodeCase {α : Type} : (cases : Cases α) → cases.Lawful → cases.ReadBack →
    cases.tags.Nodup → {value : α} → cases.Takes value →
    ∃ tag content, encodeCase cases value = .obj [(tag, content)] ∧ tag ∈ cases.tags ∧
      decodeCase cases tag content = some (.ok value)
  | .done, _, _, _, _, takes => takes.elim
  | .case tag payload inject project rest, law, reads, distinct, value, takes => by
      obtain ⟨fresh, distinct⟩ := List.nodup_cons.mp distinct
      cases projected : project value with
      | some inner =>
          refine ⟨tag, encode payload inner, ?_, List.mem_cons_self, ?_⟩
          · rw [encodeCase, projected]
          · rw [decodeCase, if_pos rfl, reads.1, ← law.2.1 value inner projected]
            rfl
      | none =>
          have later : rest.Takes value := takes.resolve_left (by simp [projected])
          obtain ⟨other, content, written, known, read⟩ :=
            decodeCase_encodeCase rest law.2.2 reads.2 distinct later
          refine ⟨other, content, ?_, List.mem_cons_of_mem _ known, ?_⟩
          · rw [encodeCase, projected, written]
          · have different : tag ≠ other := fun same => fresh (same ▸ known)
            rw [decodeCase, if_neg different, read]

end Cases

/-! ## Whole schemas -/

mutual

/-- Every value of a lawful schema is read back from what is written of it. -/
theorem Schema.Lawful.decode_encode {α : Type} : (schema : Schema α) → schema.Lawful →
    (value : α) → decode schema (encode schema value) = .ok value
  | .scalar form, law, value => law value
  | .json, _, _ => rfl
  | .optional inner, _, none => rfl
  | .optional inner, law, some value => by
      have read := Schema.Lawful.decode_encode inner law.1 value
      have there := encode_ne_null law.2 value
      rw [encode, decode, read]
      · rfl
      · exact there
  | .list inner, law, values =>
      mapM_map (encode inner) (decode inner) (Schema.Lawful.decode_encode inner law) values
  | .keyed inner, law, map => by
      have read := mapM_map (fun entry => (entry.1, encode inner entry.2))
        (fun member => do return (member.1, ← decode inner member.2))
        (fun entry : String × _ => by rw [Schema.Lawful.decode_encode inner law entry.2]; rfl)
        map.entries
      rw [encode, decode, read]
      exact congrArg Except.ok map.ofList_entries
  | .names known nameOf, law, value => by
      simp only [encode, decode, law value]
  | .tagged cases, law, value => by
      obtain ⟨tag, content, written, -, read⟩ := cases.decodeCase_encodeCase law.1
        (Cases.Lawful.readBack cases law.1) law.2.1 (law.2.2 value)
      rw [encode, written]
      simp only [decode, read]
  | .record name fields make parts, law, value =>
      decode_encode_record name fields make parts law.1 (Fields.Lawful.readBack fields law.1)
        law.2.1 law.2.2 value

theorem Fields.Lawful.readBack {γ σ : Type} : (fields : Fields γ σ) → fields.Lawful →
    fields.ReadBack
  | .done, _ => trivial
  | .field _ _ schema rest, law =>
      ⟨Schema.Lawful.decode_encode schema law.1, Fields.Lawful.readBack rest law.2.2⟩

theorem Cases.Lawful.readBack {α : Type} : (cases : Cases α) → cases.Lawful → cases.ReadBack
  | .done, _ => trivial
  | .case _ payload _ _ rest, law =>
      ⟨Schema.Lawful.decode_encode payload law.1, Cases.Lawful.readBack rest law.2.2⟩

end

end RunBoard.Wire
