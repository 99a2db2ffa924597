import RunBoard.Json.Value
import RunBoard.KeyMap

/-!
# Members of objects

The members of a JSON object are entered one by one in the order of their keys, as the
entries of a map are. What is known of maps therefore holds of objects.
-/

namespace RunBoard.Json

/-- The members of an object are entered as those of a map are. -/
theorem setMember_eq_insertEntry (key : String) (value : Json) (members : List (String × Json)) :
    setMember key value members = KeyMap.insertEntry key value members := by
  induction members with
  | nil => rfl
  | cons member rest ih => rw [setMember, KeyMap.insertEntry, ih]

theorem ofMembers_eq_ofList (members : List (String × Json)) :
    ofMembers members = .obj (KeyMap.ofList members).entries := by
  suffices entered : ∀ map : KeyMap Json,
      members.foldl (fun sorted member => setMember member.1 member.2 sorted) map.entries =
        (members.foldl (fun map member => map.insert member.1 member.2) map).entries from
    congrArg obj (entered KeyMap.empty)
  induction members with
  | nil => exact fun _ => rfl
  | cons member rest ih =>
      intro map
      rw [List.foldl_cons, List.foldl_cons, ← ih, setMember_eq_insertEntry]
      rfl

theorem ofMembers_of_ascending {members : List (String × Json)}
    (ascending : members.Pairwise fun first second => first.1 < second.1) :
    ofMembers members = .obj members := by
  rw [ofMembers_eq_ofList]
  exact congrArg obj (congrArg KeyMap.entries (KeyMap.ofList_entries ⟨members, ascending⟩))

/-- An object has its members and no others, each under its key. -/
theorem exists_ofMembers (members : List (String × Json)) :
    ∃ sorted, ofMembers members = .obj sorted ∧ (∀ member ∈ sorted, member ∈ members) ∧
      ∀ member ∈ members, member.1 ∈ sorted.map Prod.fst :=
  ⟨_, ofMembers_eq_ofList members, fun _ => KeyMap.mem_of_mem_ofList,
    fun _ => KeyMap.key_mem_ofList⟩

end RunBoard.Json
