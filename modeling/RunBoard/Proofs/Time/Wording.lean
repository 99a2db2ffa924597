import Mathlib.Algebra.Order.Round
import Mathlib.Data.Rat.Floor
import Mathlib.Tactic.FieldSimp
import Mathlib.Tactic.NormNum
import Mathlib.Tactic.Ring
import Mathlib.Tactic.SplitIfs
import RunBoard.Text.Digits
import RunBoard.Time.Wording

/-!
# How long a span is said to be

A wording takes the first unit of which there are not too many, and says how many there are. So
it can only go up with the counts: however they are rounded, a longer span is never worded as a
shorter one, and never in more of a unit than is in use. With counts rounded to the nearest the
units also meet. Where there are too many of one unit there is one of the next, and every wording
is said of some span.
-/

namespace RunBoard

/-! ## Units -/

namespace TimeUnit

/-- The place of a unit, the shortest first. -/
def place : TimeUnit → Nat
  | second => 0
  | minute => 1
  | hour => 2
  | day => 3
  | month => 4
  | year => 5

/-- Whether so many of a unit are not yet worded in the next one. -/
def Few (unit : TimeUnit) (count : Nat) : Prop :=
  match unit with
  | second | minute => count < 45
  | hour => count < 22
  | day => count < 26
  | month => count < 11
  | year => True

variable {unit other : TimeUnit}

theorem eq_of_place (same : unit.place = other.place) : unit = other := by
  cases unit <;> cases other <;> first | rfl | cases same

theorem exists_previous (notSecond : unit ≠ .second) :
    ∃ previous : TimeUnit, unit.place = previous.place + 1 := by
  cases unit with
  | second => exact absurd rfl notSecond
  | minute => exact ⟨.second, rfl⟩
  | hour => exact ⟨.minute, rfl⟩
  | day => exact ⟨.hour, rfl⟩
  | month => exact ⟨.day, rfl⟩
  | year => exact ⟨.month, rfl⟩

theorem Few.of_le {fewer more : Nat} (few : unit.Few more) (le : fewer ≤ more) :
    unit.Few fewer := by
  cases unit with
  | second | minute | hour | day | month => exact Nat.lt_of_le_of_lt le few
  | year => trivial

end TimeUnit

namespace Span

/-! ## Wordings -/

namespace Wording

def unit : Wording → TimeUnit
  | fewSeconds => .second
  | one unit | many _ unit => unit

def count : Wording → Nat
  | fewSeconds => 0
  | one _ => 1
  | many count _ => count

/-- A few seconds, a minute, two minutes and so on, an hour, two hours and so on: by the unit,
and within a unit by the count. -/
instance : LE Wording where
  le first second := first.unit.place < second.unit.place ∨
    first.unit = second.unit ∧ first.count ≤ second.count

/-- A few seconds; one of any longer unit; or two and more of it as long as they are few. -/
inductive InUse : Wording → Prop where
  | fewSeconds : InUse .fewSeconds
  | one {unit : TimeUnit} (notSecond : unit ≠ .second) : InUse (.one unit)
  | many {count : Nat} {unit : TimeUnit} (notSecond : unit ≠ .second) (several : 2 ≤ count)
      (few : unit.Few count) : InUse (.many count unit)

/-- What a wording in use reads, the shortest first. -/
inductive Reads : Wording → String → Prop where
  | fewSeconds : Reads .fewSeconds "a few seconds"
  | minute : Reads (.one .minute) "a minute"
  | minutes {count : Nat} (several : 2 ≤ count) (few : count ≤ 44) :
      Reads (.many count .minute) (toString count ++ " minutes")
  | hour : Reads (.one .hour) "an hour"
  | hours {count : Nat} (several : 2 ≤ count) (few : count ≤ 21) :
      Reads (.many count .hour) (toString count ++ " hours")
  | day : Reads (.one .day) "a day"
  | days {count : Nat} (several : 2 ≤ count) (few : count ≤ 25) :
      Reads (.many count .day) (toString count ++ " days")
  | month : Reads (.one .month) "a month"
  | months {count : Nat} (several : 2 ≤ count) (few : count ≤ 10) :
      Reads (.many count .month) (toString count ++ " months")
  | year : Reads (.one .year) "a year"
  | years {count : Nat} (several : 2 ≤ count) :
      Reads (.many count .year) (toString count ++ " years")

/-- So many of a unit in words. Of seconds there are only a few. -/
def ofCount (count : Nat) : TimeUnit → Wording
  | .second => .fewSeconds
  | unit => if count ≤ 1 then .one unit else .many count unit

variable {unit : TimeUnit}

theorem ofCount_of_ne (notSecond : unit ≠ .second) (count : Nat) :
    ofCount count unit = if count ≤ 1 then .one unit else .many count unit := by
  cases unit with
  | second => exact absurd rfl notSecond
  | minute | hour | day | month | year => rfl

theorem unit_ofCount (count : Nat) (unit : TimeUnit) : (ofCount count unit).unit = unit := by
  by_cases second : unit = .second
  · rw [second]
    rfl
  · rw [ofCount_of_ne second]
    split <;> rfl

theorem count_ofCount_le {fewer more : Nat} (le : fewer ≤ more) (unit : TimeUnit) :
    (ofCount fewer unit).count ≤ (ofCount more unit).count := by
  by_cases second : unit = .second
  · rw [second]
    exact Nat.le_refl _
  · rw [ofCount_of_ne second, ofCount_of_ne second]
    split <;> split <;> simp only [count] <;> omega

theorem inUse_ofCount {count : Nat} (few : unit.Few count) : (ofCount count unit).InUse := by
  by_cases second : unit = .second
  · rw [second]
    exact .fewSeconds
  · rw [ofCount_of_ne second]
    split
    · exact .one second
    · exact .many second (by omega) few

/-! ### Texts -/

theorem toList_text_many (count : Nat) (unit : TimeUnit) :
    (many count unit).text.toList =
      (toString count).toList ++ ' ' :: ((unitName unit).toList ++ ['s']) := by
  simp [text, toString]

theorem text_many (count : Nat) {unit : TimeUnit} {plural : String}
    (named : unitName unit ++ "s" = plural) :
    (many count unit).text = toString count ++ (" " ++ plural) := by
  rw [← String.toList_inj, toList_text_many, ← named]
  simp

theorem InUse.reads {wording : Wording} (inUse : wording.InUse) : wording.Reads wording.text := by
  cases inUse with
  | fewSeconds => exact .fewSeconds
  | @one unit notSecond =>
      cases unit with
      | second => exact absurd rfl notSecond
      | minute => exact .minute
      | hour => exact .hour
      | day => exact .day
      | month => exact .month
      | year => exact .year
  | @many count unit notSecond several few =>
      cases unit with
      | second => exact absurd rfl notSecond
      | minute => exact text_many count rfl ▸ .minutes several (Nat.le_of_lt_succ few)
      | hour => exact text_many count rfl ▸ .hours several (Nat.le_of_lt_succ few)
      | day => exact text_many count rfl ▸ .days several (Nat.le_of_lt_succ few)
      | month => exact text_many count rfl ▸ .months several (Nat.le_of_lt_succ few)
      | year => exact text_many count rfl ▸ .years several

/-- A count begins with a digit or is nothing, never with an article. -/
theorem head?_text_many_ne (count : Nat) (unit : TimeUnit) :
    (many count unit).text.toList.head? ≠ some 'a' := by
  intro article
  rw [toList_text_many] at article
  cases written : (toString count).toList with
  | nil =>
      rw [written] at article
      cases article
  | cons first rest =>
      rw [written] at article
      obtain rfl : first = 'a' := Option.some.inj article
      have digit := Text.isDigit_of_mem_toString (written ▸ List.mem_cons_self : 'a' ∈ _)
      exact absurd digit (by decide)

theorem head?_text_one (unit : TimeUnit) : (one unit).text.toList.head? = some 'a' := by
  cases unit <;> decide

theorem text_many_inj {count other : Nat} {unit otherUnit : TimeUnit}
    (same : (many count unit).text = (many other otherUnit).text) :
    many count unit = many other otherUnit := by
  have apart {count : Nat} : ' ' ∉ (toString count).toList := fun member =>
    absurd (Text.isDigit_of_mem_toString member) (by decide)
  have nameApart {unit : TimeUnit} : ' ' ∉ (unitName unit).toList ++ ['s'] := by
    cases unit <;> decide
  have letters := congrArg String.toList same
  rw [toList_text_many, toList_text_many,
    List.append_cons_inj_of_notMem apart nameApart] at letters
  obtain ⟨counts, -, units⟩ := letters
  obtain rfl : count = other := Text.toString_injective (String.toList_inj.1 counts)
  cases unit <;> cases otherUnit <;> first | rfl | exact absurd units (by decide)

/-- No two wordings have the same text. -/
theorem text_injective {first second : Wording} (same : first.text = second.text) :
    first = second := by
  have heads : first.text.toList.head? = second.text.toList.head? := by rw [same]
  cases first with
  | fewSeconds =>
      cases second with
      | fewSeconds => rfl
      | one unit => cases unit <;> exact absurd same (by decide)
      | many count unit => exact absurd heads.symm (head?_text_many_ne count unit)
  | one unit =>
      cases second with
      | fewSeconds => cases unit <;> exact absurd same (by decide)
      | one other => cases unit <;> cases other <;> first | rfl | exact absurd same (by decide)
      | many count other =>
          rw [head?_text_one] at heads
          exact absurd heads.symm (head?_text_many_ne count other)
  | many count unit =>
      cases second with
      | fewSeconds => exact absurd heads (head?_text_many_ne count unit)
      | one other =>
          rw [head?_text_one] at heads
          exact absurd heads (head?_text_many_ne count unit)
      | many other otherUnit => exact text_many_inj same

end Wording

/-! ## The choice of the unit -/

/-- The first unit of which there are few. -/
def unitBy (rounded : TimeUnit → Nat) : TimeUnit :=
  if rounded .second < 45 then .second
  else if rounded .minute < 45 then .minute
  else if rounded .hour < 22 then .hour
  else if rounded .day < 26 then .day
  else if rounded .month < 11 then .month
  else .year

section Rounded

variable {rounded shorter longer : TimeUnit → Nat} {unit : TimeUnit}

theorem wordingBy_eq :
    wordingBy rounded = .ofCount (rounded (unitBy rounded)) (unitBy rounded) := by
  -- One is few of any unit, so that may be asked first.
  have regroup {count limit : Nat} (large : 1 < limit) {one many rest : Wording} :
      (if count ≤ 1 then one else if count < limit then many else rest) =
        if count < limit then if count ≤ 1 then one else many else rest := by
    split_ifs <;> first | rfl | omega
  unfold wordingBy
  rw [regroup (by decide), regroup (by decide), regroup (by decide), regroup (by decide)]
  unfold unitBy
  split
  · rfl
  split
  · rfl
  split
  · rfl
  split
  · rfl
  split <;> rfl

theorem few_unitBy (rounded : TimeUnit → Nat) :
    (unitBy rounded).Few (rounded (unitBy rounded)) := by
  unfold unitBy
  split_ifs <;> first | assumption | trivial

theorem not_few_of_place_lt (before : unit.place < (unitBy rounded).place) :
    ¬ unit.Few (rounded unit) := by
  unfold unitBy at before
  split_ifs at before <;> cases unit <;> first | assumption | exact absurd before (by decide)

theorem unitBy_eq (few : unit.Few (rounded unit))
    (many : ∀ other : TimeUnit, other.place < unit.place → ¬ other.Few (rounded other)) :
    unitBy rounded = unit := by
  rcases Nat.lt_trichotomy (unitBy rounded).place unit.place with before | same | after
  · exact absurd (few_unitBy rounded) (many _ before)
  · exact TimeUnit.eq_of_place same
  · exact absurd few (not_few_of_place_lt after)

/-- More of every unit cannot make few of a unit of which there were too many. -/
theorem place_unitBy_le (le : ∀ unit, shorter unit ≤ longer unit) :
    (unitBy shorter).place ≤ (unitBy longer).place := by
  by_contra! before
  exact not_few_of_place_lt before ((few_unitBy longer).of_le (le _))

theorem wordingBy_le (le : ∀ unit, shorter unit ≤ longer unit) :
    wordingBy shorter ≤ wordingBy longer := by
  rw [wordingBy_eq, wordingBy_eq]
  rcases Nat.lt_or_eq_of_le (place_unitBy_le le) with before | together
  · left
    rwa [Wording.unit_ofCount, Wording.unit_ofCount]
  · right
    rw [← TimeUnit.eq_of_place together, Wording.unit_ofCount, Wording.unit_ofCount]
    exact ⟨rfl, Wording.count_ofCount_le (le _) _⟩

theorem inUse_wordingBy (rounded : TimeUnit → Nat) : (wordingBy rounded).InUse := by
  rw [wordingBy_eq]
  exact Wording.inUse_ofCount (few_unitBy rounded)

end Rounded

/-! ## Counts by exact arithmetic -/

section Exact

variable (span : Span)

/-- How many of a unit there are in a span, as a fraction. Months and years are counted in days. -/
def quotient (unit : TimeUnit) : ℚ :=
  let millis : ℚ := span.millis.natAbs
  let days := millis / 86400000
  match unit with
  | .second => millis / 1000
  | .minute => millis / 60000
  | .hour => millis / 3600000
  | .day => days
  | .month => days / 30.436875
  | .year => days / 365.2425

theorem quotient_eq (unit : TimeUnit) :
    span.quotient unit = 1000 * span.millis.natAbs / unitMicros unit := by
  cases unit <;> simp only [quotient, unitMicros] <;> norm_num <;> ring

theorem unitMicros_pos (unit : TimeUnit) : 0 < unitMicros unit := by
  cases unit <;> decide

/-- The count is the nearest one, and of two that are equally near the one farther from zero. -/
theorem exactCount_eq_round (unit : TimeUnit) :
    (span.exactCount unit : ℤ) = round (span.quotient unit) := by
  have positive : (unitMicros unit : ℚ) ≠ 0 := by exact_mod_cast (unitMicros_pos unit).ne'
  have half : span.quotient unit + 1 / 2 =
      ((2 * 1000 * span.millis.natAbs + unitMicros unit : ℕ) : ℚ) /
        ((2 * unitMicros unit : ℕ) : ℚ) := by
    rw [quotient_eq]
    push_cast
    field_simp
    ring
  rw [round_eq, half, Rat.floor_natCast_div_natCast, exactCount, Int.natCast_ediv]

theorem exactCount_le {shorter longer : Span}
    (le : shorter.millis.natAbs ≤ longer.millis.natAbs) (unit : TimeUnit) :
    shorter.exactCount unit ≤ longer.exactCount unit :=
  Nat.div_le_div_right (by omega)

/-- Where there are too many of a unit, there is one of the next. -/
theorem one_le_exactCount {unit next : TimeUnit} (follows : next.place = unit.place + 1)
    (many : ¬ unit.Few (span.exactCount unit)) : 1 ≤ span.exactCount next := by
  unfold exactCount at *
  cases unit <;> cases next <;> first
    | exact absurd follows (by decide)
    | simp only [TimeUnit.Few, unitMicros] at *; omega

/-- What is said is the nearest count. -/
theorem exactCount_unit (notFew : span.exactWording ≠ .fewSeconds) :
    span.exactCount span.exactWording.unit = span.exactWording.count := by
  have said : span.exactWording =
      .ofCount (span.exactCount (unitBy span.exactCount)) (unitBy span.exactCount) := wordingBy_eq
  have notSecond : unitBy span.exactCount ≠ .second := by
    intro second
    rw [said, second] at notFew
    exact notFew rfl
  obtain ⟨previous, follows⟩ := TimeUnit.exists_previous notSecond
  have some := span.one_le_exactCount follows
    (not_few_of_place_lt (follows ▸ Nat.lt_succ_self previous.place))
  rw [said, Wording.unit_ofCount, Wording.ofCount_of_ne notSecond]
  split
  · rename_i atMostOne
    rw [Wording.count]
    exact Nat.le_antisymm atMostOne some
  · rw [Wording.count]

end Exact

/-! ## Whole units -/

section Whole

variable (count : Nat) (unit : TimeUnit)

/-- So many units without a rest. -/
def whole : Span := ⟨(unitMicros unit / 1000 * count : Nat)⟩

theorem exactCount_whole (other : TimeUnit) : (whole count unit).exactCount other =
    (2 * 1000 * (unitMicros unit / 1000 * count) + unitMicros other) / (2 * unitMicros other) :=
  rfl

theorem exactCount_whole_self : (whole count unit).exactCount unit = count := by
  rw [exactCount_whole]
  cases unit <;> simp only [unitMicros] <;> omega

variable {count unit}

/-- Two of a unit are too many of every shorter one. -/
theorem not_few_whole (several : 2 ≤ count) {other : TimeUnit} (before : other.place < unit.place) :
    ¬ other.Few ((whole count unit).exactCount other) := by
  rw [exactCount_whole]
  cases unit <;> cases other <;> first
    | exact absurd before (by decide)
    | simp only [TimeUnit.Few, unitMicros]; omega

/-- Every wording that is in use is said of some span. -/
theorem exists_of_inUse {wording : Wording} (inUse : wording.InUse) :
    ∃ span : Span, span.exactWording = wording := by
  cases inUse with
  | fewSeconds => exact ⟨whole 0 .second, by decide⟩
  | @one unit notSecond =>
      refine ⟨whole 1 unit, ?_⟩
      cases unit with
      | second => exact absurd rfl notSecond
      | minute | hour | day | month | year => decide
  | @many count unit notSecond several few =>
      refine ⟨whole count unit, ?_⟩
      have self := exactCount_whole_self count unit
      have chosen : unitBy (whole count unit).exactCount = unit :=
        unitBy_eq (self.symm ▸ few) fun _ => not_few_whole several
      rw [exactWording, wordingBy_eq, chosen, self, Wording.ofCount_of_ne notSecond,
        if_neg (Nat.not_le_of_lt several)]

end Whole

/-! ## Spans of either sign -/

instance : Neg Span := ⟨fun span => ⟨-span.millis⟩⟩

section Neg

variable (span : Span)

theorem natAbs_millis_neg : (-span).millis.natAbs = span.millis.natAbs := Int.natAbs_neg _

theorem exactWording_neg : (-span).exactWording = span.exactWording := by
  have counts : (-span).exactCount = span.exactCount := by
    funext unit
    rw [exactCount, exactCount, natAbs_millis_neg]
  rw [exactWording, counts, exactWording]

theorem humanize_neg : (-span).humanize = span.humanize := by
  have counts : (-span).floatCount = span.floatCount := by
    funext unit
    simp only [floatCount, natAbs_millis_neg]
  rw [humanize, wording, counts, humanize, wording]

end Neg

/-- By exact arithmetic, with every count rounded to the nearest, a longer span of either sign
has no shorter wording. Exactly the wordings in use are said, the count that is said is the count
that there is, and each has a text of its own, which reads as it should. In binary64, too, no
other wordings are said, the text of the wording is what is shown, and the sign of a span does not
matter. -/
theorem wordings_grow_without_gaps :
    (∀ (span : Span) (unit : TimeUnit),
      (span.exactCount unit : ℤ) = round (span.quotient unit)) ∧
    (∀ shorter longer : Span, shorter.millis.natAbs ≤ longer.millis.natAbs →
      shorter.exactWording ≤ longer.exactWording) ∧
    (∀ wording : Wording, (∃ span : Span, span.exactWording = wording) ↔ wording.InUse) ∧
    (∀ span : Span, span.exactWording ≠ .fewSeconds →
      span.exactCount span.exactWording.unit = span.exactWording.count) ∧
    (∀ first second : Wording, first.text = second.text → first = second) ∧
    ∀ span : Span, span.wording.InUse ∧ (-span).exactWording = span.exactWording ∧
      (-span).humanize = span.humanize ∧
      span.exactWording.Reads span.exactWording.text ∧
      span.humanize = span.wording.text ∧ span.wording.Reads span.humanize := by
  refine ⟨exactCount_eq_round, fun shorter longer le => ?_, fun wording => ⟨?_, exists_of_inUse⟩,
    exactCount_unit, fun _ _ => Wording.text_injective, fun span => ?_⟩
  · exact wordingBy_le (exactCount_le le)
  · rintro ⟨span, rfl⟩
    exact inUse_wordingBy span.exactCount
  · have exactly : span.exactWording.InUse := inUse_wordingBy span.exactCount
    have inUse : span.wording.InUse := inUse_wordingBy span.floatCount
    exact ⟨inUse, span.exactWording_neg, span.humanize_neg, exactly.reads, rfl, inUse.reads⟩

/-- With a millisecond more, forty-four minutes are an hour. -/
theorem minutes_give_way_to_hour :
    (2669999 : Int).natAbs ≤ (-2670000 : Int).natAbs ∧
      exactWording ⟨2669999⟩ = .many 44 .minute ∧ exactWording ⟨-2670000⟩ = .one .hour ∧
      exactWording ⟨2669999⟩ ≤ exactWording ⟨-2670000⟩ :=
  ⟨by decide, by decide, by decide, wordings_grow_without_gaps.2.1 _ _ (by decide)⟩

end Span

end RunBoard
