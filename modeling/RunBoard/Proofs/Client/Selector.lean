import RunBoard.Proofs.Client.Addressing
import RunBoard.Proofs.Text.Utf8
import RunBoard.Proofs.Text.Verbatim
import RunBoard.Proofs.Url.Ending
import RunBoard.Proofs.Url.Query

/-!
# Which label selectors arrive

A label selector is passed on as it is, at the end of the path that jobs are asked for with. The
page and the page size arrive whatever stands there. The selector arrives when no character in
it has a meaning to a URL, and otherwise something else is asked for.
-/

namespace RunBoard.Selector

open Resource (exampleBase parse_exampleBase)
open Text (Utf8.text? Percent.decode Percent.encode)
open Text.Percent (HoldsTriple IsHex)
open Url (counted encodedParameter keptInQuery parameters)

/-- Whether a selector says what it says in a URL too. -/
structure Plain (selector : List Char) : Prop where
  undivided : '&' ∉ selector
  unmarked : '#' ∉ selector
  unbroken : ∀ c ∈ selector, c ≠ '\t' ∧ c ≠ '\n' ∧ c ≠ '\r'
  closed : ∀ c ∈ selector.getLast?, 32 < c.toNat
  literal : ¬ HoldsTriple selector

theorem plain_iff {selector : List Char} :
    Plain selector ↔ '&' ∉ selector ∧ '#' ∉ selector ∧ counted selector = selector ∧
      ¬ HoldsTriple selector := by
  rw [Url.counted_eq_self_iff]
  constructor
  · rintro ⟨undivided, unmarked, unbroken, closed, literal⟩
    exact ⟨undivided, unmarked, ⟨closed, unbroken⟩, literal⟩
  · rintro ⟨undivided, unmarked, ⟨closed, unbroken⟩, literal⟩
    exact ⟨undivided, unmarked, unbroken, closed, literal⟩

instance (selector : List Char) : Decidable (Plain selector) := decidable_of_iff' _ plain_iff

/-- What jobs are asked for with. -/
def asked (page perPage : UInt32) (labels : Option String) : List (String × String) :=
  ("page", toString page) :: ("perPage", toString perPage) :: (labels.map ("labels", ·)).toList

/-- Whether a URL asks with just these parameters, and nothing stands behind its query. -/
def Carries (url : Url) (given : List (String × String)) : Prop :=
  url.query.map parameters = some (given.map fun parameter => (parameter.1, some parameter.2)) ∧
    url.fragment = none

/-! ## The path that is asked for -/

/-- The parameters before a selector. -/
def pageQuery (page perPage : UInt32) : List Char :=
  encodedParameter ("page", toString page) ++ '&' :: encodedParameter ("perPage", toString perPage)

/-- A selector as a part of a query. -/
def labelsPart (selector : List Char) : List Char := "labels".toList ++ '=' :: selector

theorem labelsPart_eq (selector : List Char) :
    labelsPart selector = "labels".toList ++ '=' :: selector := by
  -- Unfolding through an equation would compare the selector with every letter of the name.
  delta labelsPart
  rfl

/-- A query with a selector, if there is one. -/
def query (page perPage : UInt32) (selector : Option (List Char)) : List Char :=
  pageQuery page perPage ++ selector.elim [] fun selector => '&' :: labelsPart selector

theorem toList_jobs (page perPage : UInt32) (labels : Option String) :
    (Endpoint.jobs page perPage labels).toList =
      "/api/v1/jobs?".toList ++ query page perPage (labels.map String.toList) := by
  simp only [query, pageQuery, encodedParameter, Url.encodeComponent_toString]
  cases labels <;> simp [Endpoint.jobs, Endpoint.base, labelsPart_eq, toString]

/-- A selector stands at the end of its query. -/
theorem query_map (page perPage : UInt32) (labels : Option String) (write : String → List Char) :
    query page perPage (labels.map write) =
      query page perPage (labels.map fun _ => []) ++ labels.elim [] write := by
  cases labels <;> simp [query, labelsPart_eq]

theorem keptInQuery_of_mem_query {page perPage : UInt32} {labels : Option String} {special : Bool}
    {c : Char} (member : c ∈ query page perPage (labels.map fun _ => [])) :
    keptInQuery special c = true := by
  have marks : ∀ c ∈ "page=&perPage&labels".toList, keptInQuery special c = true := by
    simp [keptInQuery, Url.isPrintable]
  have words {word : List Char} (among : word ⊆ "page=&perPage&labels".toList) :
      ∀ c ∈ word, keptInQuery special c = true := fun c member => marks c (among member)
  have numbers (n : UInt32) : ∀ c ∈ (toString n).toList, keptInQuery special c = true := by
    intro c member
    have digit := Url.isDigit_of_mem_toString member
    exact Url.keptInQuery_of_isAlphanum (by simp [Char.isAlphanum, digit])
  have pages : ∀ c ∈ pageQuery page perPage, keptInQuery special c = true := by
    simp only [pageQuery, encodedParameter, Url.encodeComponent_toString, List.forall_mem_append,
      List.forall_mem_cons]
    exact ⟨⟨words (by decide), marks _ (by decide), numbers page⟩, marks _ (by decide),
      words (by decide), marks _ (by decide), numbers perPage⟩
  rcases List.mem_append.1 member with before | behind
  · exact pages c before
  · cases labels with
    | none => contradiction
    | some _ => exact words (by decide : "&labels=".toList ⊆ _) c behind

/-- The path up to the selector is seen. -/
theorem toList_jobs_visible (page perPage : UInt32) (labels : Option String) :
    let front := "v1/jobs?".toList ++ query page perPage (labels.map fun _ => [])
    (Endpoint.jobs page perPage labels).toList =
      '/' :: 'a' :: 'p' :: 'i' :: '/' :: (front ++ labels.elim [] String.toList) ∧
      ∀ c ∈ front, 32 < c.toNat := by
  constructor
  · rw [toList_jobs, query_map, List.append_assoc]
    rfl
  · rw [List.forall_mem_append]
    refine ⟨by simp, fun c member => ?_⟩
    exact (Url.visible_of_keptInQuery (keptInQuery_of_mem_query member : keptInQuery true c = true)).1

/-- What a URL keeps of a selector. -/
def kept (special : Bool) (selector : String) : List Char :=
  Percent.encode (keptInQuery special) ((counted selector.toList).takeWhile (· ≠ '#'))

/-- Below a base with a hierarchy the path resolves, and everything before the selector is kept
as it is. -/
theorem exists_resolve_jobs {base : BaseUrl} (under : base.url.path.isFlat = false)
    (page perPage : UInt32) (labels : Option String) :
    ∃ url, base.resolve (Endpoint.jobs page perPage labels) = .ok url ∧
      url.query = some (query page perPage
        (labels.map (kept (Url.isSpecial base.url.scheme)))) ∧
      (url.fragment = none ↔ ∀ selector ∈ labels, '#' ∉ counted selector.toList) := by
  let front : List Char := query page perPage (labels.map fun _ => [])
  let text : List Char := labels.elim [] String.toList
  have plain (special : Bool) : ∀ c ∈ front, keptInQuery special c = true := fun _ =>
    keptInQuery_of_mem_query
  have unmarked : ∀ c ∈ front, c ≠ '#' := fun c member =>
    (Url.visible_of_keptInQuery (plain true c member)).2
  obtain ⟨written, visible⟩ := toList_jobs_visible page perPage labels
  obtain ⟨authority, segments, resolved⟩ := BaseUrl.exists_resolve written visible under
  have whole : ∀ c ∈ "api/v1/jobs".toList, Url.endsPath c = false := by
    simp [Url.endsPath]
  obtain ⟨asked, behind⟩ := Url.withTrailer_query whole base.url.scheme authority
    (.rooted segments) (front ++ counted text)
  have first : (front ++ counted text).takeWhile (· ≠ '#') =
      front ++ (counted text).takeWhile (· ≠ '#') :=
    List.takeWhile_append_of_pos fun c member => decide_eq_true (unmarked c member)
  refine ⟨_, resolved, asked.trans ?_, behind.trans ?_⟩
  · rw [first, Text.Percent.encode_append, Text.Percent.encode_of_kept (plain _), query_map]
    cases labels <;> rfl
  · have fresh : '#' ∉ front := fun member => unmarked _ member rfl
    rw [List.mem_append, not_or]
    cases labels with
    | none => simp [fresh, text, counted]
    | some selector => simp [fresh, text]

/-! ## What is read of it -/

/-- The first two parameters are the page and the page size, whatever is behind them. -/
theorem parameters_query (page perPage : UInt32) (selector : Option (List Char)) :
    parameters (query page perPage selector) =
      ("page", some (toString page)) :: ("perPage", some (toString perPage)) ::
        selector.elim [] fun selector => parameters (labelsPart selector) := by
  have pageName : Url.IsName "page" := by decide
  have sizeName : Url.IsName "perPage" := by decide
  rw [query, pageQuery, List.append_assoc, List.cons_append,
    Url.parameters_part_append (Url.whole_encodedParameter pageName),
    Url.readParameter_encodedParameter pageName]
  congr 1
  cases selector with
  | none =>
    rw [Option.elim_none, List.append_nil,
      Url.parameters_part (Url.whole_encodedParameter sizeName),
      Url.readParameter_encodedParameter sizeName]
    rfl
  | some selector =>
    rw [Option.elim_some, Url.parameters_part_append (Url.whole_encodedParameter sizeName),
      Url.readParameter_encodedParameter sizeName]
    rfl

/-- What is kept of a selector is read as the selector, with nothing behind the query, exactly
when the selector is plain. -/
theorem parameters_kept_iff {special : Bool} {selector : String} :
    parameters (labelsPart (kept special selector)) = [("labels", some selector)] ∧
        '#' ∉ counted selector.toList ↔ Plain selector.toList := by
  have percent : keptInQuery special '%' = true := by cases special <;> decide
  have divider : keptInQuery special '&' = true := by cases special <;> decide
  have digits : ∀ c, IsHex c → keptInQuery special c = true := fun c hex =>
    Url.keptInQuery_of_isAlphanum (Text.Percent.isAlphanum_of_isHex hex)
  have named : Url.IsName "labels" := by decide
  rw [labelsPart_eq, Url.parameters_written_iff named, Text.Utf8.text?_eq_some_iff, plain_iff]
  -- With a number sign both sides fail, so nothing has to be known of what stands before it.
  by_cases marked : '#' ∈ counted selector.toList
  · have inside : '#' ∈ selector.toList := (Url.counted_sublist _).subset marked
    simp [marked, inside]
  have all : (counted selector.toList).takeWhile (· ≠ '#') = counted selector.toList := by
    rw [List.takeWhile_eq_self_iff]
    intro c member
    exact decide_eq_true fun same => marked (same ▸ member)
  rw [kept, all, Text.Percent.mem_encode_iff divider (by decide),
    Text.Percent.decode_encode_of_kept percent digits, Text.Utf8.bytes,
    Text.Percent.decode_eq_encode_iff_of_sublist (Url.counted_sublist _)]
  constructor
  · rintro ⟨⟨undivided, whole, literal⟩, unmarked⟩
    rw [whole] at undivided unmarked
    exact ⟨undivided, unmarked, whole, literal⟩
  · rintro ⟨undivided, unmarked, whole, literal⟩
    rw [whole]
    exact ⟨⟨undivided, rfl, literal⟩, unmarked⟩

/-- Jobs cannot be asked for below a base without a hierarchy. Below any other the URL asks for
the page and the page size, and whatever it asks for besides comes after them. It asks for just
these and the selector exactly when the selector, if there is one, is plain. -/
theorem selector_arrives_iff_plain (base : BaseUrl) (page perPage : UInt32)
    (labels : Option String) :
    (base.url.path.isFlat = true → base.resolve (Endpoint.jobs page perPage labels) =
      .error (.address (.unresolved (Endpoint.jobs page perPage labels) .flatBase))) ∧
    (base.url.path.isFlat = false →
      ∃ url, base.resolve (Endpoint.jobs page perPage labels) = .ok url ∧
        (∃ more, url.query.map parameters = some (("page", some (toString page)) ::
          ("perPage", some (toString perPage)) :: more)) ∧
        (Carries url (asked page perPage labels) ↔ ∀ selector ∈ labels, Plain selector.toList)) := by
  constructor
  · intro flat
    obtain ⟨written, visible⟩ := toList_jobs_visible page perPage labels
    exact BaseUrl.resolve_flat written visible flat
  · intro under
    obtain ⟨url, resolved, query, behind⟩ := exists_resolve_jobs under page perPage labels
    refine ⟨url, resolved, ⟨_, by rw [query, Option.map_some, parameters_query]⟩, ?_⟩
    rw [Carries, query, Option.map_some, parameters_query, behind]
    cases labels with
    | none => simp [asked]
    | some selector => simpa [asked] using parameters_kept_iff

/-- Equals signs, commas and exclamation marks arrive. -/
theorem requirement_list_arrives :
    BaseUrl.parse "http://gw.local:8080/accio" = .ok exampleBase ∧
    ∃ url, exampleBase.resolve (Endpoint.jobs 3 30 (some "team=ml,env!=dev")) = .ok url ∧
      Carries url [("page", "3"), ("perPage", "30"), ("labels", "team=ml,env!=dev")] := by
  refine ⟨parse_exampleBase, ?_⟩
  obtain ⟨-, asking⟩ := selector_arrives_iff_plain exampleBase 3 30 (some "team=ml,env!=dev")
  obtain ⟨url, resolved, -, carries⟩ := asking rfl
  have plain : Plain "team=ml,env!=dev".toList := by decide
  exact ⟨url, resolved, carries.2 (by simpa using plain)⟩

/-- A selector with an ampersand in it ends there, and asks for another page. -/
theorem ampersand_ends_selector :
    BaseUrl.parse "http://gw.local:8080/accio" = .ok exampleBase ∧
    ∃ url, exampleBase.resolve (Endpoint.jobs 1 30 (some "a&page=9")) = .ok url ∧
      url.query.map parameters = some [("page", some "1"), ("perPage", some "30"),
        ("labels", some "a"), ("page", some "9")] ∧
      ¬ Carries url [("page", "1"), ("perPage", "30"), ("labels", "a&page=9")] := by
  obtain ⟨url, resolved, query, -⟩ :=
    exists_resolve_jobs (rfl : exampleBase.url.path.isFlat = false) 1 30 (some "a&page=9")
  have read : url.query.map parameters = some [("page", some "1"), ("perPage", some "30"),
      ("labels", some "a"), ("page", some "9")] := by
    rw [query, Option.map_some, parameters_query]
    decide
  refine ⟨parse_exampleBase, url, resolved, read, ?_⟩
  rintro ⟨carried, -⟩
  rw [read] at carried
  revert carried
  decide

end RunBoard.Selector
