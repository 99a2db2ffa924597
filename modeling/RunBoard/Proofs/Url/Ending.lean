import Mathlib.Data.List.DropRight
import RunBoard.Proofs.Url.Below

/-!
# References with any ending

A path of the gateway may end in a text that nobody has encoded. Below any base with a hierarchy
it resolves, whatever that text is. What is left of the text are all its characters but the
blanks at its end, tabs and line breaks; up to a number sign they belong to the query.
-/

namespace RunBoard.Url

/-- What counts of a text at the end of a reference. -/
def counted (text : List Char) : List Char :=
  (text.rdropWhile fun c => c.toNat ≤ 32).filter fun c => c ≠ '\t' && c ≠ '\n' && c ≠ '\r'

theorem counted_sublist (text : List Char) : (counted text).Sublist text :=
  List.filter_sublist.trans (List.rdropWhile_prefix _ text).sublist

/-- A text counts as a whole when it ends in a character that is no blank, and no tab or line
break is in it. -/
theorem counted_eq_self_iff {text : List Char} :
    counted text = text ↔ (∀ c ∈ text.getLast?, 32 < c.toNat) ∧
      ∀ c ∈ text, c ≠ '\t' ∧ c ≠ '\n' ∧ c ≠ '\r' := by
  have shorter : (counted text).Sublist (text.rdropWhile fun c => c.toNat ≤ 32) :=
    List.filter_sublist
  constructor
  · intro whole
    rw [whole] at shorter
    have ends : text.rdropWhile (fun c => c.toNat ≤ 32) = text :=
      (List.rdropWhile_prefix _ text).sublist.antisymm shorter
    rw [counted, ends, List.filter_eq_self] at whole
    refine ⟨?_, fun c member => by simpa [and_assoc] using whole c member⟩
    rw [List.rdropWhile_eq_self_iff] at ends
    intro c last
    obtain ⟨before, rfl⟩ := List.getLast?_eq_some_iff.1 last
    simpa using ends (by simp)
  · rintro ⟨last, unbroken⟩
    have ends : text.rdropWhile (fun c => c.toNat ≤ 32) = text := by
      rw [List.rdropWhile_eq_self_iff]
      intro some
      have := last _ (List.getLast?_eq_some_getLast some)
      simpa using this
    rw [counted, ends, List.filter_eq_self]
    intro c member
    simpa [and_assoc] using unbroken c member

/-- Behind visible characters a text loses what does not count of it, and nothing else. -/
theorem significant_append {front : List Char} (visible : ∀ c ∈ front, 32 < c.toNat)
    (some : front ≠ []) (text : List Char) :
    significant (front ++ text) = front ++ counted text := by
  let outer : Char → Bool := fun c => c.toNat ≤ 32
  have starts : ∀ {chars : List Char}, chars ≠ [] → (∀ c ∈ chars, 32 < c.toNat) →
      ∀ rest, (chars ++ rest).dropWhile outer = chars ++ rest := by
    intro chars some shown rest
    obtain ⟨c, more, rfl⟩ := List.exists_cons_of_ne_nil some
    have := shown c List.mem_cons_self
    rw [List.cons_append, List.dropWhile_cons_of_neg (by simpa [outer] using this)]
  have back : ((front ++ text).reverse.dropWhile outer).reverse = front ++ text.rdropWhile outer := by
    have kept := starts (List.reverse_ne_nil_iff.2 some)
      (fun c member => visible c (List.mem_reverse.1 member)) []
    rw [List.append_nil] at kept
    rw [List.reverse_append, List.dropWhile_append, List.rdropWhile]
    split
    · next nothing =>
      rw [kept, List.reverse_reverse, List.isEmpty_iff.1 nothing, List.reverse_nil, List.append_nil]
    · rw [List.reverse_append, List.reverse_reverse]
  have unbroken : front.filter (fun c => c ≠ '\t' && c ≠ '\n' && c ≠ '\r') = front := by
    rw [List.filter_eq_self]
    intro c member
    have shown := visible c member
    simp only [ne_eq, Bool.and_eq_true, decide_eq_true_eq]
    refine ⟨⟨?_, ?_⟩, ?_⟩
    all_goals
      rintro rfl
      exact absurd shown (by decide)
  change ((((front ++ text).dropWhile outer).reverse.dropWhile outer).reverse).filter _ = _
  rw [starts some visible, back, List.filter_append, unbroken]
  rfl

/-! ## Query and fragment -/

section Kept

variable {special : Bool} {c : Char}

theorem keptInQuery_of_isAlphanum (plain : c.isAlphanum = true) : keptInQuery special c = true := by
  have encoded : Text.Percent.isEncodedChar c = true := by
    simp [Text.Percent.isEncodedChar, Text.Percent.isComponentChar, plain]
  have table := Text.Percent.of_isEncodedChar
    (fun c => !c.isAlphanum || (keptInQuery true c && keptInQuery false c)) (by decide) encoded
  simp only [plain, Bool.not_true, Bool.false_or, Bool.and_eq_true] at table
  cases special with
  | false => exact table.2
  | true => exact table.1

theorem visible_of_keptInQuery (plain : keptInQuery special c = true) :
    32 < c.toNat ∧ c ≠ '#' := by
  simp only [keptInQuery, Url.isPrintable, Bool.and_eq_true, decide_eq_true_eq,
    Bool.not_eq_true', List.contains_eq_mem, decide_eq_false_iff_not] at plain
  obtain ⟨⟨⟨least, -⟩, other⟩, -⟩ := plain
  have blank : c.toNat ≠ 32 := by
    intro code
    have same : c = ' ' := by rw [← Char.ofNat_toNat c, code]
    exact other (by simp [same])
  refine ⟨by omega, ?_⟩
  rintro rfl
  exact other (by decide)

end Kept

/-- Behind a path the query goes up to the first number sign. -/
theorem withTrailer_query {path : List Char} (whole : ∀ c ∈ path, endsPath c = false)
    (scheme : List Char) (authority : Option Authority) (segments : Path) (rest : List Char) :
    let url := withTrailer scheme authority segments (path ++ '?' :: rest)
    url.query = some (Text.Percent.encode (keptInQuery (isSpecial scheme))
      (rest.takeWhile (· ≠ '#'))) ∧ (url.fragment = none ↔ '#' ∉ rest) := by
  have cut : (path ++ '?' :: rest).dropWhile (fun c => !endsPath c) = '?' :: rest := by
    rw [List.dropWhile_append_of_pos fun c member => by simp [whole c member],
      List.dropWhile_cons_of_neg (by decide)]
  simp only [withTrailer, cut, Trailer.read, true_and]
  constructor
  · intro none marked
    obtain ⟨before, after, rfl, first⟩ := List.eq_append_cons_of_mem marked
    have plain : ∀ c ∈ before, decide (c ≠ '#') = true := by
      intro c member
      exact decide_eq_true fun same => first (same ▸ member)
    rw [List.dropWhile_append_of_pos plain, List.dropWhile_cons_of_neg (by simp)] at none
    cases none
  · intro plain
    have gone : rest.dropWhile (· ≠ '#') = [] := by
      rw [List.dropWhile_eq_nil_iff]
      intro c member
      exact decide_eq_true fun same => plain (same ▸ member)
    rw [gone]

end RunBoard.Url

namespace RunBoard.BaseUrl

open Url (counted)

section Resolution

variable {base : BaseUrl} {path : String} {front text : List Char}
  (written : path.toList = '/' :: 'a' :: 'p' :: 'i' :: '/' :: (front ++ text))
  (visible : ∀ c ∈ front, 32 < c.toNat)

include written visible

/-- A path of the gateway is no URL of its own. -/
theorem parse_of_written : Url.parse path = .error .noBase := by
  have shown : ∀ c ∈ '/' :: 'a' :: 'p' :: 'i' :: '/' :: front, 32 < c.toNat := by
    simpa using visible
  have counts : Url.significant path.toList =
      '/' :: 'a' :: 'p' :: 'i' :: '/' :: (front ++ counted text) := by
    rw [written]
    exact Url.significant_append shown (List.cons_ne_nil _ _) text
  simp only [Url.parse, Url.read, counts]
  rfl

theorem read_relativePath :
    Url.resolve base.url (relativePath path) =
      let chars := 'a' :: 'p' :: 'i' :: '/' :: (front ++ counted text)
      if base.url.path.isFlat then .error .flatBase
      else if Url.isFile base.url.scheme then Url.parseFile (some base.url) chars
      else Url.parseRelative base.url chars := by
  have shown : ∀ c ∈ 'a' :: 'p' :: 'i' :: '/' :: front, 32 < c.toNat := by
    simpa using visible
  have counts : Url.significant (relativePath path).toList =
      'a' :: 'p' :: 'i' :: '/' :: (front ++ counted text) := by
    rw [relativePath, written, String.toList_ofList]
    exact Url.significant_append shown (List.cons_ne_nil _ _) text
  have unnamed : Url.splitScheme? ('a' :: 'p' :: 'i' :: '/' :: (front ++ counted text)) = none := by
    apply Url.splitScheme?_of_name
    simp
  simp only [Url.resolve, Url.read, counts, unnamed]
  rfl

theorem resolve_flat (flat : base.url.path.isFlat = true) :
    base.resolve path = .error (.address (.unresolved path .flatBase)) := by
  rw [resolve, parse_of_written written visible]
  simp only [read_relativePath written visible, flat, if_true]
  rfl

/-- Below a base with a hierarchy every path of the gateway resolves, and what counts of it is
read behind the path of the URL. -/
theorem exists_resolve (under : base.url.path.isFlat = false) :
    ∃ authority segments, base.resolve path = .ok (Url.withTrailer base.url.scheme authority
      (.rooted segments) ('a' :: 'p' :: 'i' :: '/' :: (front ++ counted text))) := by
  have letters : Url.isAnySlash 'a' = false ∧ Url.isAnySlash 'p' = false := by decide
  rw [resolve, parse_of_written written visible]
  simp only [read_relativePath written visible, under, Bool.false_eq_true, if_false]
  split
  · next file =>
    have scheme : base.url.scheme = "file".toList := by
      have named : String.ofList base.url.scheme = "file" := of_decide_eq_true file
      rw [← named, String.toList_ofList]
    rw [scheme]
    simp only [Url.parseFile, letters, Bool.false_and, Bool.false_eq_true, if_false,
      Url.parseFile.relative, Url.fileUrl]
    exact ⟨_, _, rfl⟩
  · simp only [Url.parseRelative]
    exact ⟨_, _, rfl⟩

end Resolution

end RunBoard.BaseUrl
