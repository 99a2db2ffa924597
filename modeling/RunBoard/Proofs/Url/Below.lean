import RunBoard.Client.Address
import RunBoard.Proofs.Url.Placement

/-!
# Below the base

A base URL of the web has an authority and a path that ends in a slash. A path of visible
characters that begins with a slash and a name is no URL of its own, so it resolves to a
URL with the scheme and the authority of the base.
-/

namespace RunBoard.Url

/-! ## References of visible characters -/

/-- Text of visible characters counts as a whole. -/
theorem significant_of_visible {text : List Char} (visible : ∀ c ∈ text, 32 < c.toNat) :
    significant text = text := by
  have front : ∀ {chars : List Char}, (∀ c ∈ chars, 32 < c.toNat) →
      (chars.dropWhile fun c => c.toNat ≤ 32) = chars := by
    intro chars shown
    cases chars with
    | nil => rfl
    | cons c rest =>
      have := shown c List.mem_cons_self
      rw [List.dropWhile_cons_of_neg (by simpa using this)]
  have back : ∀ c ∈ text.reverse, 32 < c.toNat := by
    intro c member
    exact visible c (List.mem_reverse.1 member)
  rw [significant, front visible, front back, List.reverse_reverse, List.filter_eq_self]
  intro c member
  have shown := visible c member
  simp only [ne_eq, Bool.and_eq_true, decide_eq_true_eq]
  refine ⟨⟨?_, ?_⟩, ?_⟩
  all_goals
    rintro rfl
    exact absurd shown (by decide)

/-- A path that begins with a slash stands for no URL of its own. -/
theorem parse_of_slash {path : String} {rest : List Char} (written : path.toList = '/' :: rest)
    (visible : ∀ c ∈ path.toList, 32 < c.toNat) : parse path = .error .noBase := by
  have unnamed : splitScheme? path.toList = none := by
    rw [written]
    rfl
  simp only [parse, read, significant_of_visible visible, unnamed]

/-- A name before a slash or a query is no scheme. -/
theorem splitScheme?_of_name {more : List Char} (next : ∀ c ∈ more.head?, c = '/' ∨ c = '?') :
    splitScheme? ('a' :: 'p' :: 'i' :: more) = none := by
  cases more with
  | nil => rfl
  | cons c rest => rcases next c rfl with rfl | rfl <;> rfl

theorem takeWhile_segments {first : List Char} {rest : List (List Char)} {tail : List Char}
    (whole : ∀ segment ∈ first :: rest, ∀ c ∈ segment, endsAuthority true c = false)
    (behind : ∀ c ∈ tail.head?, c = '?') :
    (first ++ (Path.ofSegments rest ++ tail)).takeWhile (fun c => !endsPath c) =
      first ++ Path.ofSegments rest := by
  have inside : ∀ c ∈ first ++ Path.ofSegments rest, (!endsPath c) = true := by
    intro c member
    have : c = '/' ∨ endsAuthority true c = false := by
      rcases List.mem_append.1 member with member | member
      · exact .inr (whole first List.mem_cons_self c member)
      · obtain ⟨segment, among, member⟩ := List.mem_flatMap.1 member
        rcases List.mem_cons.1 member with slash | member
        · exact .inl slash
        · exact .inr (whole segment (List.mem_cons_of_mem first among) c member)
    rcases this with rfl | plain
    · decide
    · simp only [endsAuthority, Bool.or_eq_false_iff] at plain
      simp [endsPath, plain]
  have outside : tail.takeWhile (fun c => !endsPath c) = [] := by
    cases tail with
    | nil => rfl
    | cons c rest =>
      obtain rfl := behind c rfl
      rfl
  rw [← List.append_assoc, List.takeWhile_append_of_pos inside, outside, List.append_nil]

/-! ## Bases of the web -/

/-- Whether a scheme is one that the gateway is asked through. -/
def IsWeb (url : Url) : Prop := url.scheme = "http".toList ∨ url.scheme = "https".toList

theorem IsWeb.special {url : Url} (web : url.IsWeb) : isSpecial url.scheme = true := by
  rcases web with web | web <;> rw [web] <;> decide

theorem IsWeb.notFile {url : Url} (web : url.IsWeb) : isFile url.scheme = false := by
  rcases web with web | web <;> rw [web] <;> decide

/-- Whether a URL has a host and a path of segments. -/
def IsHosted (url : Url) : Prop :=
  ∃ authority segments, url.authority = some authority ∧ url.path = .rooted segments

theorem rootedPath_rooted (scheme text : List Char) :
    ∃ segments, rootedPath scheme text = .rooted segments := by
  unfold rootedPath
  split <;> split <;> exact ⟨_, rfl⟩

/-- A computation that succeeds has succeeded in its first part. -/
theorem ok_of_bind {ε α β : Type} {first : Except ε α} {next : α → Except ε β} {b : β}
    (done : first >>= next = .ok b) : ∃ a, first = .ok a ∧ next a = .ok b := by
  cases first with
  | error cause => contradiction
  | ok a => exact ⟨a, rfl, done⟩

theorem hosted_of_fromAuthority {scheme text : List Char} {url : Url}
    (read : parseFromAuthority scheme text = .ok url) : url.IsHosted := by
  unfold parseFromAuthority at read
  obtain ⟨authority, -, built⟩ := ok_of_bind read
  obtain ⟨segments, path⟩ := rootedPath_rooted scheme
    ((text.dropWhile fun c => !endsAuthority (isSpecial scheme) c).takeWhile fun c => !endsPath c)
  cases built
  exact ⟨authority, segments, rfl, path⟩

theorem scheme_of_file {text : List Char} {url : Url} (read : parseFile none text = .ok url) :
    url.scheme = "file".toList := by
  unfold parseFile parseFile.relative at read
  split at read
  · split at read
    · dsimp only at read
      split at read
      · cases read
        rfl
      · obtain ⟨host, -, built⟩ := ok_of_bind read
        cases built
        rfl
    · split at read <;> cases read <;> rfl
  · split at read <;> cases read <;> rfl
  · cases read
    rfl

/-- A URL of the web that is read on its own has a host. -/
theorem IsWeb.hosted {text : String} {url : Url} (web : url.IsWeb)
    (read : parse text = .ok url) : url.IsHosted := by
  unfold parse Url.read at read
  dsimp only at read
  split at read
  · next scheme rest _ =>
    unfold parseWithScheme at read
    dsimp only [Option.filter] at read
    split at read
    · next file =>
      -- A file keeps its scheme, so it is none of the web.
      have other := scheme_of_file read
      have notFile := web.notFile
      rw [other] at notFile
      contradiction
    split at read
    · exact hosted_of_fromAuthority read
    · next plain =>
      have special := web.special
      split at read
      · exact hosted_of_fromAuthority read
      all_goals
        cases read
        contradiction
  · contradiction

end RunBoard.Url

namespace RunBoard.BaseUrl

open Url (Path)

/-- A path that is closed is one of names with an empty one behind them. -/
theorem closed_rooted (segments : List (List Char)) :
    ∃ before, closed (.rooted segments) = .rooted (before ++ [[]]) := by
  by_cases last : segments.getLast? = some []
  · obtain ⟨before, rfl⟩ := List.getLast?_eq_some_iff.1 last
    exact ⟨before, if_pos last⟩
  · exact ⟨segments, if_neg last⟩

/-- A base URL of the web has a host, and its path ends in a slash. -/
theorem shape_of_parse {server : String} {base : BaseUrl} (accepted : parse server = .ok base)
    (web : base.url.IsWeb) :
    ∃ authority before, base.url.authority = some authority ∧
      base.url.path = .rooted (before ++ [[]]) := by
  unfold parse at accepted
  split at accepted
  · next url read =>
    cases accepted
    have hosted : url.IsHosted := Url.IsWeb.hosted web read
    obtain ⟨authority, segments, host, path⟩ := hosted
    obtain ⟨before, ends⟩ := closed_rooted segments
    exact ⟨authority, before, host, by rw [path, ends]⟩
  · contradiction

theorem sameOrigin_of_shared {base url : Url} {authority : Url.Authority} (web : base.IsWeb)
    (host : base.authority = some authority) (scheme : url.scheme = base.scheme)
    (sameHost : url.authority = base.authority) : base.sameOrigin url = true := by
  have same : url.origin? = base.origin? := by
    simp only [Url.origin?, scheme, sameHost]
  rw [Url.sameOrigin, same]
  simp [Url.origin?, web.special, web.notFile, host]

/-- A path that begins with this name goes below the base, whatever stands behind it. -/
theorem resolve_below {base : BaseUrl} {before rest : List (List Char)} {path : String}
    (tail : List Char) (web : base.url.IsWeb) (under : base.url.path = .rooted (before ++ [[]]))
    (written : path.toList = Path.ofSegments (['a', 'p', 'i'] :: rest) ++ tail)
    (visible : ∀ c ∈ path.toList, 32 < c.toNat)
    (whole : ∀ segment ∈ rest, ∀ c ∈ segment, Url.endsAuthority true c = false)
    (behind : ∀ c ∈ tail.head?, c = '?') :
    base.resolve path = .ok (Url.withTrailer base.url.scheme base.url.authority
      (.rooted (Url.place false before (['a', 'p', 'i'] :: rest))) (path.toList.drop 1)) := by
  let more := Path.ofSegments rest ++ tail
  have reference : path.toList = '/' :: 'a' :: 'p' :: 'i' :: more := by
    rw [written, Url.ofSegments_cons]
    rfl
  have alone : Url.parse path = .error .noBase := Url.parse_of_slash reference visible
  have relative : (relativePath path).toList = 'a' :: 'p' :: 'i' :: more := by
    rw [relativePath, reference, String.toList_ofList]
    rfl
  have shown : ∀ c ∈ (relativePath path).toList, 32 < c.toNat := by
    intro c member
    apply visible
    rw [reference, ← relative]
    exact List.mem_cons_of_mem _ member
  have unnamed : Url.splitScheme? ('a' :: 'p' :: 'i' :: more) = none := by
    apply Url.splitScheme?_of_name
    intro c first
    cases rest with
    | nil => exact .inr (behind c first)
    | cons segment rest =>
      rw [show more = '/' :: (segment ++ Path.ofSegments rest ++ tail) by
        simp [more, Url.ofSegments_cons]] at first
      exact .inl (Option.some.inj first).symm
  have placed : Url.placeText base.url.scheme base.url.path.toSegments.dropLast
      (('a' :: 'p' :: 'i' :: more).takeWhile fun c => !Url.endsPath c) =
        Url.place false before (['a', 'p', 'i'] :: rest) := by
    have named : ∀ segment ∈ ['a', 'p', 'i'] :: rest,
        ∀ c ∈ segment, Url.endsAuthority true c = false := by
      rintro segment (_ | ⟨_, member⟩)
      · simp [Url.endsAuthority, Url.isSlash]
      · exact whole segment member
    have ends : ('a' :: 'p' :: 'i' :: more).takeWhile (fun c => !Url.endsPath c) =
        ['a', 'p', 'i'] ++ Path.ofSegments rest :=
      Url.takeWhile_segments named behind
    have parts : Url.splitAt (Url.isSlash true) (['a', 'p', 'i'] ++ Path.ofSegments rest) =
        ['a', 'p', 'i'] :: rest := by
      apply Url.splitAt_segments rfl
      intro segment member c inside
      have := named segment member c inside
      simp only [Url.endsAuthority, Bool.or_eq_false_iff] at this
      exact this.1.1
    rw [ends, under, Url.placeText, web.notFile, web.special, parts]
    simp [Path.toSegments]
  have rooted : base.url.path.isFlat = false := by rw [under]; rfl
  have read : Url.read (some base.url) (relativePath path) =
      Url.parseRelative base.url ('a' :: 'p' :: 'i' :: more) := by
    rw [Url.read, Url.significant_of_visible shown, relative]
    simp [unnamed, web.notFile, rooted]
  have letters : Url.isAnySlash 'a' = false ∧ Url.isAnySlash 'p' = false := by decide
  rw [resolve, alone, reference]
  simp [Url.resolve, read, Url.parseRelative, placed, letters]
  rfl

end RunBoard.BaseUrl
