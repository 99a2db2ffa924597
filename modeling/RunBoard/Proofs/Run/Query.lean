import RunBoard.Model.Run
import RunBoard.Proofs.Url.Query

/-!
# What a run listing is asked for

The text of a query is read as its page size, its page and the filters that are set, in this
order, whatever the filters say. So the gateway is asked for exactly what the query means, and
no two queries are asked in the same words.
-/

namespace RunBoard.RunQuery

open Text (Utf8.text? Percent.decode Percent.encodeComponent)
open Text.Percent (IsComponent)
open Url (IsName encodedParameter parameters)

/-- The parameters that have a value, in order. -/
def given (parameters : List (String × Option String)) : List (String × String) :=
  parameters.filterMap fun parameter => parameter.2.map (parameter.1, ·)

/-- Everything that a query may say, in the order in which it is said. -/
def said (query : RunQuery) : List (String × Option String) :=
  [("per_page", some (toString query.perPage)), ("page", some (toString query.page)),
    ("q", query.q), ("parent", query.parent), ("workflow", query.workflow), ("owner", query.owner)]

/-! ## The text of a query -/

theorem intercalate_cons (mark : Char) (first : List Char) (rest : List (List Char)) :
    [mark].intercalate (first :: rest) = first ++ rest.flatMap (mark :: ·) := by
  induction rest generalizing first with
  | nil => simp
  | cons second rest ih =>
      rw [List.intercalate_cons_cons, ih, List.flatMap_cons]
      simp

/-- A filter that is set is written as one more parameter, any other is not written. -/
theorem flatMap_filterText (filters : List (String × Option String)) :
    filters.flatMap (fun filter => (filterText filter).toList) =
      ((given filters).map encodedParameter).flatMap ('&' :: ·) := by
  induction filters with
  | nil => rfl
  | cons filter rest ih =>
      obtain ⟨name, value⟩ := filter
      rw [List.flatMap_cons, ih]
      cases value with
      | none => simp [filterText, given]
      | some value => simp [filterText, given, encodedParameter]

theorem text_toList (query : RunQuery) :
    query.text.toList = ['&'].intercalate ((given query.said).map encodedParameter) := by
  have parts : given query.said =
      ("per_page", toString query.perPage) :: ("page", toString query.page) ::
        given query.filters := rfl
  rw [parts, List.map_cons, List.map_cons, intercalate_cons, List.flatMap_cons,
    ← flatMap_filterText]
  simp only [encodedParameter, Url.encodeComponent_toString]
  simp [text, List.flatMap_map, toString]

theorem isName_of_mem_given {query : RunQuery} {parameter : String × String}
    (member : parameter ∈ given query.said) : IsName parameter.1 := by
  have named : ∀ parameter ∈ query.said, IsName parameter.1 := by
    simp [said, IsName]
  obtain ⟨known, among, set⟩ := List.mem_filterMap.1 member
  obtain ⟨value, -, rfl⟩ := Option.map_eq_some_iff.1 set
  exact named known among

theorem parameters_text (query : RunQuery) :
    parameters query.text.toList =
      (given query.said).map fun parameter => (parameter.1, some parameter.2) := by
  rw [text_toList]
  exact Url.parameters_encoded (List.cons_ne_nil _ _) fun _ => isName_of_mem_given

/-! ## Reading a query back -/

/-- Where names differ, the value of a parameter can be looked up by its name. -/
theorem lookup_given {parameters : List (String × Option String)}
    (distinct : (parameters.map Prod.fst).Nodup) {parameter : String × Option String}
    (member : parameter ∈ parameters) : (given parameters).lookup parameter.1 = parameter.2 := by
  induction parameters with
  | nil => contradiction
  | cons head rest ih =>
      obtain ⟨name, value⟩ := head
      obtain ⟨fresh, distinct⟩ := List.nodup_cons.1 distinct
      have missing : (given rest).lookup name = none := by
        rw [List.lookup_eq_none_iff]
        intro entry among
        obtain ⟨other, inside, set⟩ := List.mem_filterMap.1 among
        obtain ⟨text, -, rfl⟩ := Option.map_eq_some_iff.1 set
        have different : name ≠ other.1 := by
          rintro rfl
          exact fresh (List.mem_map.2 ⟨other, inside, rfl⟩)
        simpa using different
      rcases List.mem_cons.1 member with rfl | inside
      · cases value with
        | none => exact missing
        | some value => simp [given]
      · have different : (parameter.1 == name) = false := by
          rw [beq_eq_false_iff_ne]
          rintro rfl
          exact fresh (List.mem_map.2 ⟨parameter, inside, rfl⟩)
        have found : (given rest).lookup parameter.1 = parameter.2 := ih distinct inside
        cases value with
        | none => exact found
        | some value =>
            rw [← found]
            simp [given, List.lookup_cons, different]

/-- A query can be told from what it says. -/
theorem given_said_injective {first second : RunQuery}
    (same : given first.said = given second.said) : first = second := by
  have distinct (query : RunQuery) : (query.said.map Prod.fst).Nodup := by
    simp [said]
  have agree (name : String) {value value' : Option String}
      (one : (name, value) ∈ first.said) (other : (name, value') ∈ second.said) :
      value = value' := by
    have found : (given first.said).lookup name = value := lookup_given (distinct first) one
    have found' : (given second.said).lookup name = value' := lookup_given (distinct second) other
    rw [← found, same, found']
  have size : some (toString first.perPage) = some (toString second.perPage) :=
    agree "per_page" (by simp [said]) (by simp [said])
  have page : some (toString first.page) = some (toString second.page) :=
    agree "page" (by simp [said]) (by simp [said])
  obtain ⟨_, _, q, parent, workflow, owner⟩ := first
  obtain ⟨_, _, q', parent', workflow', owner'⟩ := second
  obtain rfl := Url.toString_injective (Option.some.inj size)
  obtain rfl := Url.toString_injective (Option.some.inj page)
  obtain rfl : q = q' := agree "q" (by simp [said]) (by simp [said])
  obtain rfl : parent = parent' := agree "parent" (by simp [said]) (by simp [said])
  obtain rfl : workflow = workflow' := agree "workflow" (by simp [said]) (by simp [said])
  obtain rfl : owner = owner' := agree "owner" (by simp [said]) (by simp [said])
  rfl

/-- The text of a query is read as what the query says, and no other query has it. A filter
may be any text, since its encoded form stands for it and has nothing but letters, digits, nine
marks and bytes in upper-case hexadecimal. -/
theorem text_reads_as_query (query : RunQuery) :
    parameters query.text.toList =
      (given query.said).map (fun parameter => (parameter.1, some parameter.2)) ∧
    (∀ other : RunQuery, other.text = query.text → other = query) ∧
    ∀ text : String, Utf8.text? (Percent.decode (Percent.encodeComponent text).toList) = some text ∧
      IsComponent (Percent.encodeComponent text).toList := by
  refine ⟨parameters_text query, ?_, ?_⟩
  · intro other same
    have read := parameters_text other
    rw [same, parameters_text query] at read
    refine given_said_injective ((List.map_inj_right ?_).1 read).symm
    intro first second equal
    obtain ⟨name, value⟩ := Prod.mk.inj equal
    exact Prod.ext name (Option.some.inj value)
  · intro text
    exact ⟨Text.Percent.text?_decode_encodeComponent text,
      Text.Percent.isComponent_encodeComponent text⟩

end RunBoard.RunQuery
