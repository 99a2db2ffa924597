import RunBoard.Url.Parser
import RunBoard.Proofs.Text.Percent

/-!
# Where a relative reference ends up

A text of segments splits into them again, and segments are placed one behind the other
unless one of them stands for this level or the level above. So a relative reference adds
as many segments as it has only when none of them does.
-/

namespace RunBoard.Url

/-! ## Splitting -/

theorem ofSegments_append (before segments : List (List Char)) :
    Path.ofSegments (before ++ segments) =
      Path.ofSegments before ++ Path.ofSegments segments := by
  simp [Path.ofSegments]

theorem ofSegments_cons (segment : List Char) (rest : List (List Char)) :
    Path.ofSegments (segment :: rest) = '/' :: (segment ++ Path.ofSegments rest) := by
  simp [Path.ofSegments]

section Splitting

variable {separates : Char → Bool}

theorem splitAt_part {part : List Char} (whole : ∀ c ∈ part, separates c = false) :
    splitAt separates part = [part] := by
  induction part with
  | nil => rfl
  | cons c part ih =>
    rw [splitAt, ih fun d member => whole d (List.mem_cons_of_mem c member),
      whole c List.mem_cons_self]
    rfl

theorem splitAt_part_append {part rest : List Char} {mark : Char} (marked : separates mark)
    (whole : ∀ c ∈ part, separates c = false) :
    splitAt separates (part ++ mark :: rest) = part :: splitAt separates rest := by
  induction part with
  | nil => simp [splitAt, marked]
  | cons c part ih =>
    rw [List.cons_append, splitAt, ih fun d member => whole d (List.mem_cons_of_mem c member),
      whole c List.mem_cons_self]
    rfl

theorem splitAt_segments (slash : separates '/') {first : List Char}
    {rest : List (List Char)}
    (whole : ∀ segment ∈ first :: rest, ∀ c ∈ segment, separates c = false) :
    splitAt separates (first ++ Path.ofSegments rest) = first :: rest := by
  induction rest generalizing first with
  | nil => simpa [Path.ofSegments] using splitAt_part (whole first List.mem_cons_self)
  | cons second rest ih =>
    have behind : splitAt separates (second ++ Path.ofSegments rest) = second :: rest := by
      apply ih
      intro segment member
      exact whole segment (List.mem_cons_of_mem first member)
    rw [ofSegments_cons, splitAt_part_append slash (whole first List.mem_cons_self), behind]

end Splitting

/-! ## Levels -/

theorem eq_of_toLower {c d : Char} (same : c.toLower = d) :
    c = d ∨ 65 ≤ c.toNat ∧ d.toNat = c.toNat + 32 := by
  unfold Char.toLower at same
  split at same
  · next upper =>
    obtain ⟨low, high⟩ := upper
    rw [ge_iff_le, UInt32.le_iff_toNat_le] at low
    rw [UInt32.le_iff_toNat_le] at high
    have most : c.toNat ≤ 90 := high
    subst same
    refine .inr ⟨low, ?_⟩
    change (c.val + 32).toNat = c.toNat + 32
    rw [UInt32.toNat_add]
    change (c.toNat + 32) % 2 ^ 32 = _
    omega
  · exact .inl same

theorem eq_of_toLower_mark {c d : Char} (mark : d.toNat < 97) (same : c.toLower = d) :
    c = d := by
  rcases eq_of_toLower same with same | upper
  · exact same
  · omega

theorem eq_of_toLower_e {c : Char} (same : c.toLower = 'e') : c = 'e' ∨ c = 'E' := by
  rcases eq_of_toLower same with same | ⟨-, code⟩
  · exact .inl same
  · right
    have : c.toNat = 69 := by simpa using code.symm
    rw [← Char.ofNat_toNat c, this]

/-- A dot, written out or encoded, is read as a dot. -/
theorem decode_of_lowered_dot {segment : List Char} (behind : List Char)
    (dot : segment.map Char.toLower = '.' :: behind ∨
      segment.map Char.toLower = '%' :: '2' :: 'e' :: behind) :
    ∃ rest, rest.map Char.toLower = behind ∧
      Text.Percent.decode segment = 0x2e :: Text.Percent.decode rest := by
  rcases dot with dot | dot
  · obtain ⟨c, rest, rfl, lower, tail⟩ := List.map_eq_cons_iff.1 dot
    obtain rfl := eq_of_toLower_mark (by decide) lower
    exact ⟨rest, tail, rfl⟩
  · obtain ⟨c, more, rfl, percent, dot⟩ := List.map_eq_cons_iff.1 dot
    obtain ⟨high, more, rfl, two, dot⟩ := List.map_eq_cons_iff.1 dot
    obtain ⟨low, rest, rfl, e, tail⟩ := List.map_eq_cons_iff.1 dot
    obtain rfl := eq_of_toLower_mark (by decide) percent
    obtain rfl := eq_of_toLower_mark (by decide) two
    refine ⟨rest, tail, ?_⟩
    rcases eq_of_toLower_e e with rfl | rfl <;> rfl

/-- What stands for this level is a dot, however it is written. -/
theorem decode_of_isDot {segment : List Char} (dot : isDot segment) :
    Text.Percent.decode segment = [0x2e] := by
  simp only [isDot, List.contains_cons, List.contains_nil, Bool.or_false, Bool.or_eq_true,
    beq_iff_eq, ← String.toList_inj, String.toList_ofList] at dot
  obtain ⟨rest, nothing, reads⟩ := decode_of_lowered_dot [] dot
  rw [reads, List.map_eq_nil_iff.1 nothing]
  rfl

/-- What stands for the level above is two dots, however they are written. -/
theorem decode_of_isDoubleDot {segment : List Char} (dots : isDoubleDot segment) :
    Text.Percent.decode segment = [0x2e, 0x2e] := by
  simp only [isDoubleDot, List.contains_cons, List.contains_nil, Bool.or_false, Bool.or_eq_true,
    beq_iff_eq, ← String.toList_inj, String.toList_ofList] at dots
  have first : ∃ behind, (behind = ['.'] ∨ behind = ['%', '2', 'e']) ∧
      (segment.map Char.toLower = '.' :: behind ∨
        segment.map Char.toLower = '%' :: '2' :: 'e' :: behind) := by
    rcases dots with dots | dots | dots | dots
    · exact ⟨_, .inl rfl, .inl dots⟩
    · exact ⟨_, .inr rfl, .inl dots⟩
    · exact ⟨_, .inl rfl, .inr dots⟩
    · exact ⟨_, .inr rfl, .inr dots⟩
  obtain ⟨behind, second, first⟩ := first
  obtain ⟨rest, rfl, reads⟩ := decode_of_lowered_dot behind first
  obtain ⟨rest, nothing, readsBehind⟩ := decode_of_lowered_dot [] second
  rw [reads, readsBehind, List.map_eq_nil_iff.1 nothing]
  rfl

/-! ## Placing -/

/-- A segment that stands for a level and not for a name. -/
def isLevel (segment : List Char) : Bool := isDot segment || isDoubleDot segment

/-- The segments after one more that another stands behind. -/
def descend (before : List (List Char)) (segment : List Char) : List (List Char) :=
  if isDoubleDot segment then before.dropLast
  else if isDot segment then before
  else before ++ [Text.Percent.encode keptInPath segment]

/-- What a segment that stands for a level leaves behind when it is the last one. -/
def ending (segments : List (List Char)) : List (List Char) :=
  if segments.getLast?.any isLevel then [[]] else []

theorem shorten_eq_dropLast (segments : List (List Char)) :
    shorten false segments = segments.dropLast := by
  unfold shorten
  split <;> simp

/-- Outside of files every segment is placed on its own. -/
theorem place_eq_foldl (before segments : List (List Char)) :
    place false before segments = segments.foldl descend before ++ ending segments := by
  induction segments generalizing before with
  | nil => simp [place, ending]
  | cons segment rest ih =>
    cases rest with
    | nil =>
      cases doubleDot : isDoubleDot segment <;> cases dot : isDot segment <;>
        simp [place, ending, isLevel, descend, encodedSegment, shorten_eq_dropLast, dot, doubleDot]
    | cons second rest =>
      have same : ending (segment :: second :: rest) = ending (second :: rest) := by
        simp [ending]
      rw [List.foldl_cons, same, ← ih]
      cases doubleDot : isDoubleDot segment <;> cases dot : isDot segment <;>
        simp [place, descend, encodedSegment, shorten_eq_dropLast, dot, doubleDot]

theorem ending_eq_nil {segments : List (List Char)}
    (names : ∀ segment ∈ segments, isLevel segment = false) : ending segments = [] := by
  unfold ending
  split
  · next last =>
    obtain ⟨segment, found, level⟩ := (Option.any_eq_true _ _).1 last
    rw [names segment (List.mem_of_getLast? found)] at level
    contradiction
  · rfl

theorem foldl_descend_names (before : List (List Char)) {segments : List (List Char)}
    (names : ∀ segment ∈ segments, isLevel segment = false)
    (kept : ∀ segment ∈ segments, ∀ c ∈ segment, keptInPath c) :
    segments.foldl descend before = before ++ segments := by
  induction segments generalizing before with
  | nil => simp
  | cons segment rest ih =>
    obtain ⟨dot, doubleDot⟩ := Bool.or_eq_false_iff.1 (names segment List.mem_cons_self)
    have asWritten : descend before segment = before ++ [segment] := by
      simp [descend, dot, doubleDot,
        Text.Percent.encode_of_kept (kept segment List.mem_cons_self)]
    rw [List.foldl_cons, asWritten, ih]
    · rw [List.append_assoc, List.singleton_append]
    · intro name member
      exact names name (List.mem_cons_of_mem segment member)
    · intro name member
      exact kept name (List.mem_cons_of_mem segment member)

/-- Names stand one behind the other. -/
theorem place_names (before : List (List Char)) {segments : List (List Char)}
    (names : ∀ segment ∈ segments, isLevel segment = false)
    (kept : ∀ segment ∈ segments, ∀ c ∈ segment, keptInPath c) :
    place false before segments = before ++ segments := by
  rw [place_eq_foldl, ending_eq_nil names, List.append_nil, foldl_descend_names before names kept]

/-- Segments below others do not touch these while there is a level for each that goes up. -/
theorem foldl_descend_append (before : List (List Char)) {after segments : List (List Char)}
    (deep : segments.countP isDoubleDot ≤ after.length) :
    segments.foldl descend (before ++ after) = before ++ segments.foldl descend after := by
  induction segments generalizing after with
  | nil => rfl
  | cons segment rest ih =>
    rw [List.countP_cons] at deep
    have step : descend (before ++ after) segment = before ++ descend after segment := by
      unfold descend
      split
      · next up =>
        have some : after ≠ [] := by
          rintro rfl
          simp [up] at deep
        exact List.dropLast_append_of_ne_nil some
      · split
        · rfl
        · rw [List.append_assoc]
    have below : rest.countP isDoubleDot ≤ (descend after segment).length := by
      unfold descend
      split
      · next up =>
        rw [if_pos up] at deep
        rw [List.length_dropLast]
        omega
      · next up =>
        rw [if_neg up] at deep
        split
        · omega
        · rw [List.length_append]
          omega
    rw [List.foldl_cons, List.foldl_cons, step, ih below]

/-- Below enough names, segments leave what is above these names alone. -/
theorem place_below (before : List (List Char)) {top segments : List (List Char)}
    (names : ∀ segment ∈ top, isLevel segment = false)
    (kept : ∀ segment ∈ top, ∀ c ∈ segment, keptInPath c)
    (deep : segments.countP isDoubleDot ≤ top.length) :
    place false before (top ++ segments) = before ++ place false [] (top ++ segments) := by
  rw [place_eq_foldl, place_eq_foldl, List.foldl_append, List.foldl_append,
    foldl_descend_names before names kept, foldl_descend_names [] names kept, List.nil_append,
    foldl_descend_append before deep, List.append_assoc]

theorem mem_place {before segments : List (List Char)} {placed : List Char}
    (member : placed ∈ place false before segments) :
    placed ∈ before ∨ placed = [] ∨
      ∃ segment ∈ segments, placed = Text.Percent.encode keptInPath segment := by
  rw [place_eq_foldl, List.mem_append] at member
  rcases member with member | member
  · induction segments generalizing before with
    | nil => exact .inl member
    | cons segment rest ih =>
      rcases ih member with known | known | ⟨name, among, known⟩
      · unfold descend at known
        split at known
        · exact .inl (List.dropLast_subset _ known)
        · split at known
          · exact .inl known
          · rcases List.mem_append.1 known with known | known
            · exact .inl known
            · exact .inr (.inr ⟨segment, List.mem_cons_self, List.mem_singleton.1 known⟩)
      · exact .inr (.inl known)
      · exact .inr (.inr ⟨name, List.mem_cons_of_mem segment among, known⟩)
  · unfold ending at member
    split at member
    · exact .inr (.inl (List.mem_singleton.1 member))
    · contradiction

/-- Every segment that stands for a level is missing below. -/
theorem length_foldl_descend_le (before segments : List (List Char)) :
    (segments.foldl descend before).length + segments.countP isLevel ≤
      before.length + segments.length := by
  induction segments generalizing before with
  | nil => simp
  | cons segment rest ih =>
    have step : (descend before segment).length + (if isLevel segment then 1 else 0) ≤
        before.length + 1 := by
      unfold descend isLevel
      split
      · next up => simp [up]
      · next up =>
        split
        · next here => simp [here]
        · next here => simp [up, here]
    have := ih (descend before segment)
    rw [List.foldl_cons, List.countP_cons, List.length_cons]
    omega

/-- Segments that read as they are written are all names, if no level reads as nothing. -/
theorem names_of_place_reads {β : Type} (read : List Char → β) (before : List (List Char))
    {segments : List (List Char)} (levels : ∀ segment, isLevel segment → read segment ≠ read [])
    (same : (place false before segments).map read = (before ++ segments).map read) :
    ∀ segment ∈ segments, isLevel segment = false := by
  have short := length_foldl_descend_le before segments
  rw [place_eq_foldl] at same
  have size := congrArg List.length same
  simp only [List.length_map, List.length_append] at size
  by_cases last : segments.getLast?.any isLevel
  · -- As many segments as are written, but the last of them is empty.
    exfalso
    obtain ⟨segment, found, level⟩ := (Option.any_eq_true _ _).1 last
    have closing : ending segments = [[]] := if_pos last
    have ends := congrArg List.getLast? same
    simp only [closing, List.map_append, List.getLast?_append, List.getLast?_map, found] at ends
    exact levels segment level (Option.some.inj ends).symm
  · have unended : ending segments = [] := if_neg last
    rw [unended, List.length_nil] at size
    have none : segments.countP isLevel = 0 := by omega
    simpa using List.countP_eq_zero.1 none

end RunBoard.Url
