/-!
# Key-ordered maps

A finite map from texts, held as its entries in ascending order of keys. Two maps with
the same entries are equal.
-/

namespace RunBoard

structure KeyMap (α : Type) where
  entries : List (String × α)
  ascending : entries.Pairwise fun first second => first.1 < second.1

namespace KeyMap

variable {α β : Type}

def empty : KeyMap α := ⟨[], .nil⟩

instance : Inhabited (KeyMap α) := ⟨empty⟩

instance [BEq α] : BEq (KeyMap α) := ⟨fun first second => first.entries == second.entries⟩

theorem ext {first second : KeyMap α} (same : first.entries = second.entries) :
    first = second := by
  cases first
  cases second
  cases same
  rfl

/-- Puts an entry in its place; an entry with the same key is replaced. -/
def insertEntry (key : String) (value : α) : List (String × α) → List (String × α)
  | [] => [(key, value)]
  | (first, old) :: rest =>
      if key < first then (key, value) :: (first, old) :: rest
      else if key = first then (key, value) :: rest
      else (first, old) :: insertEntry key value rest

theorem lt_of_not_lt_of_ne {first second : String} (notBelow : ¬ first < second)
    (different : first ≠ second) : second < first := by
  have below := String.not_lt.mp notBelow
  exact String.not_le.mp fun above => different (String.le_antisymm above below)

theorem mem_insertEntry {key : String} {value : α} {entries : List (String × α)}
    {entry : String × α} (member : entry ∈ insertEntry key value entries) :
    entry = (key, value) ∨ entry ∈ entries := by
  induction entries with
  | nil => simpa [insertEntry] using member
  | cons head rest ih =>
      obtain ⟨first, old⟩ := head
      unfold insertEntry at member
      split at member
      · simpa using member
      · split at member
        · rcases List.mem_cons.mp member with same | inside
          · exact .inl same
          · exact .inr (List.mem_cons_of_mem _ inside)
        · rcases List.mem_cons.mp member with same | inside
          · exact .inr (by simp [same])
          · rcases ih inside with same | deeper
            · exact .inl same
            · exact .inr (List.mem_cons_of_mem _ deeper)

theorem ascending_insertEntry {key : String} {value : α} {entries : List (String × α)}
    (ascending : entries.Pairwise fun first second => first.1 < second.1) :
    (insertEntry key value entries).Pairwise fun first second => first.1 < second.1 := by
  induction entries with
  | nil => simp [insertEntry]
  | cons head rest ih =>
      obtain ⟨first, old⟩ := head
      obtain ⟨above, tail⟩ := List.pairwise_cons.mp ascending
      unfold insertEntry
      split
      · next below =>
          refine List.pairwise_cons.mpr ⟨?_, ascending⟩
          intro entry member
          rcases List.mem_cons.mp member with same | inside
          · simpa [same] using below
          · exact String.lt_trans below (above entry inside)
      · next notBelow =>
          split
          · next same =>
              refine List.pairwise_cons.mpr ⟨?_, tail⟩
              intro entry member
              simpa [same] using above entry member
          · next different =>
              refine List.pairwise_cons.mpr ⟨?_, ih tail⟩
              intro entry member
              rcases mem_insertEntry member with same | inside
              · simpa [same] using lt_of_not_lt_of_ne notBelow different
              · exact above entry inside

/-- The map with one more entry; an entry with the same key is replaced. -/
def insert (map : KeyMap α) (key : String) (value : α) : KeyMap α :=
  ⟨insertEntry key value map.entries, ascending_insertEntry map.ascending⟩

/-- The map of these entries; of entries with one key the last counts. -/
def ofList (entries : List (String × α)) : KeyMap α :=
  entries.foldl (fun map entry => map.insert entry.1 entry.2) empty

def valueAt? (key : String) : List (String × α) → Option α
  | [] => none
  | (first, value) :: rest => if first = key then some value else valueAt? key rest

/-- The value at a key. -/
def get? (map : KeyMap α) (key : String) : Option α :=
  valueAt? key map.entries

def toList (map : KeyMap α) : List (String × α) := map.entries

def isEmpty (map : KeyMap α) : Bool := map.entries.isEmpty

theorem valueAt?_insertEntry_self (key : String) (value : α) (entries : List (String × α)) :
    valueAt? key (insertEntry key value entries) = some value := by
  induction entries with
  | nil => simp [insertEntry, valueAt?]
  | cons head rest ih =>
      obtain ⟨first, old⟩ := head
      by_cases below : key < first
      · simp [insertEntry, below, valueAt?]
      · by_cases same : key = first
        · simp [insertEntry, same, valueAt?]
        · simp [insertEntry, below, same, valueAt?, Ne.symm same, ih]

theorem valueAt?_insertEntry_of_ne {key other : String} (different : other ≠ key) (value : α)
    (entries : List (String × α)) :
    valueAt? other (insertEntry key value entries) = valueAt? other entries := by
  induction entries with
  | nil => simp [insertEntry, valueAt?, Ne.symm different]
  | cons head rest ih =>
      obtain ⟨first, old⟩ := head
      by_cases below : key < first
      · simp [insertEntry, below, valueAt?, Ne.symm different]
      · by_cases same : key = first
        · subst same
          simp [insertEntry, valueAt?, Ne.symm different]
        · by_cases here : first = other
          · subst here
            simp [insertEntry, below, same, valueAt?]
          · simp [insertEntry, below, same, valueAt?, here, ih]

theorem get?_insert_self (map : KeyMap α) (key : String) (value : α) :
    (map.insert key value).get? key = some value :=
  valueAt?_insertEntry_self key value map.entries

theorem get?_insert_of_ne (map : KeyMap α) {key other : String} (different : other ≠ key)
    (value : α) : (map.insert key value).get? other = map.get? other :=
  valueAt?_insertEntry_of_ne different value map.entries

theorem get?_insert (map : KeyMap α) (key other : String) (value : α) :
    (map.insert key value).get? other = if key = other then some value else map.get? other := by
  by_cases same : key = other
  · rw [if_pos same, ← same, get?_insert_self]
  · rw [if_neg same, get?_insert_of_ne map (Ne.symm same)]

theorem valueAt?_eq_none_of_above {key : String} {entries : List (String × α)}
    (above : ∀ entry ∈ entries, key < entry.1) : valueAt? key entries = none := by
  induction entries with
  | nil => rfl
  | cons head rest ih =>
      have different : head.1 ≠ key := by
        intro same
        exact String.lt_irrefl key (same ▸ above head List.mem_cons_self)
      rw [valueAt?, if_neg different]
      exact ih fun entry member => above entry (List.mem_cons_of_mem head member)

/-- A key that is found is not below all entries. -/
theorem not_lt_of_valueAt?_isSome {key first : String} {old : α} {rest : List (String × α)}
    (ascending : ((first, old) :: rest).Pairwise fun one other => one.1 < other.1)
    (found : (valueAt? key ((first, old) :: rest)).isSome = true) : ¬ key < first := by
  intro below
  have missing : valueAt? key ((first, old) :: rest) = none := by
    refine valueAt?_eq_none_of_above ?_
    intro entry member
    rcases List.mem_cons.mp member with rfl | inside
    · exact below
    · exact String.lt_trans below ((List.pairwise_cons.mp ascending).1 entry inside)
  rw [missing] at found
  cases found

theorem entries_eq_of_valueAt? {first second : List (String × α)}
    (ascending : first.Pairwise fun one other => one.1 < other.1)
    (ascending' : second.Pairwise fun one other => one.1 < other.1)
    (same : ∀ key, valueAt? key first = valueAt? key second) : first = second := by
  induction first generalizing second with
  | nil =>
      cases second with
      | nil => rfl
      | cons head rest => simpa [valueAt?] using same head.1
  | cons head rest ih =>
      obtain ⟨key, value⟩ := head
      cases second with
      | nil => simpa [valueAt?] using same key
      | cons head' rest' =>
          obtain ⟨key', value'⟩ := head'
          -- Each of the two least keys is found in the other list, so none is below the other.
          have least : ¬ key < key' := by
            refine not_lt_of_valueAt?_isSome ascending' ?_
            rw [← same]
            simp [valueAt?]
          have least' : ¬ key' < key := by
            refine not_lt_of_valueAt?_isSome ascending ?_
            rw [same]
            simp [valueAt?]
          obtain rfl : key = key' :=
            String.le_antisymm (String.not_lt.mp least') (String.not_lt.mp least)
          obtain rfl : value = value' := by simpa [valueAt?] using same key
          obtain ⟨above, tail⟩ := List.pairwise_cons.mp ascending
          obtain ⟨above', tail'⟩ := List.pairwise_cons.mp ascending'
          refine congrArg _ (ih tail tail' ?_)
          intro other
          by_cases here : key = other
          · rw [← here, valueAt?_eq_none_of_above above, valueAt?_eq_none_of_above above']
          · simpa [valueAt?, here] using same other

/-- A map is what can be looked up in it. -/
theorem ext_get? {first second : KeyMap α} (same : ∀ key, first.get? key = second.get? key) :
    first = second :=
  ext (entries_eq_of_valueAt? first.ascending second.ascending same)

theorem insertEntry_last {entries : List (String × α)} {key : String} (value : α)
    (below : ∀ entry ∈ entries, entry.1 < key) :
    insertEntry key value entries = entries ++ [(key, value)] := by
  induction entries with
  | nil => rfl
  | cons head rest ih =>
      obtain ⟨first, old⟩ := head
      have under : first < key := below (first, old) List.mem_cons_self
      have above : ¬ key < first := String.lt_asymm under
      have other : key ≠ first := fun same => String.lt_irrefl key (same ▸ under)
      rw [insertEntry, if_neg above, if_neg other,
        ih fun entry member => below entry (List.mem_cons_of_mem _ member)]
      rfl

theorem foldl_insert (map : KeyMap α) (entries : List (String × α))
    (ascending : (map.entries ++ entries).Pairwise fun first second => first.1 < second.1) :
    (entries.foldl (fun map entry => map.insert entry.1 entry.2) map).entries =
      map.entries ++ entries := by
  induction entries generalizing map with
  | nil => simp
  | cons entry rest ih =>
      have below : ∀ old ∈ map.entries, old.1 < entry.1 := fun old member =>
        (List.pairwise_append.mp ascending).2.2 old member entry List.mem_cons_self
      have inserted : (map.insert entry.1 entry.2).entries = map.entries ++ [entry] :=
        insertEntry_last entry.2 below
      rw [List.foldl_cons, ih, inserted, List.append_assoc, List.singleton_append]
      rwa [inserted, List.append_assoc, List.singleton_append]

/-- A map is the map of its entries. -/
theorem ofList_entries (map : KeyMap α) : ofList map.entries = map :=
  ext (foldl_insert empty map.entries map.ascending)

theorem mem_keys_insertEntry {key other : String} {value : α} {entries : List (String × α)} :
    other ∈ (insertEntry key value entries).map Prod.fst ↔
      other = key ∨ other ∈ entries.map Prod.fst := by
  induction entries with
  | nil => simp [insertEntry]
  | cons head rest ih =>
      obtain ⟨first, old⟩ := head
      unfold insertEntry
      split
      · simp
      · split
        · next same => simp [same]
        · simp only [List.map_cons, List.mem_cons, ih]
          exact or_left_comm

/-- A map has no other entries than those it is made of. -/
theorem mem_of_mem_ofList {entries : List (String × α)} {entry : String × α}
    (inside : entry ∈ (ofList entries).entries) : entry ∈ entries := by
  suffices any : ∀ map : KeyMap α,
      entry ∈ (entries.foldl (fun map entry => map.insert entry.1 entry.2) map).entries →
      entry ∈ map.entries ∨ entry ∈ entries from
    (any empty inside).resolve_left List.not_mem_nil
  clear inside
  induction entries with
  | nil => exact fun map inside => .inl inside
  | cons head rest ih =>
      intro map inside
      rcases ih _ inside with before | later
      · rcases mem_insertEntry before with rfl | old
        · exact .inr List.mem_cons_self
        · exact .inl old
      · exact .inr (List.mem_cons_of_mem _ later)

/-- A map has an entry under the key of each entry that it is made of. -/
theorem key_mem_ofList {entries : List (String × α)} {entry : String × α}
    (inside : entry ∈ entries) : entry.1 ∈ (ofList entries).entries.map Prod.fst := by
  suffices any : ∀ map : KeyMap α, entry.1 ∈ map.entries.map Prod.fst ∨ entry ∈ entries →
      entry.1 ∈ (entries.foldl (fun map entry => map.insert entry.1 entry.2) map).entries.map
        Prod.fst from
    any empty (.inr inside)
  clear inside
  induction entries with
  | nil => exact fun map known => known.resolve_right List.not_mem_nil
  | cons head rest ih =>
      intro map known
      apply ih
      rcases known with before | inside
      · exact .inl (mem_keys_insertEntry.mpr (.inr before))
      · rcases List.mem_cons.mp inside with rfl | later
        · exact .inl (mem_keys_insertEntry.mpr (.inl rfl))
        · exact .inr later

end KeyMap

end RunBoard
