import RunBoard.Client.Endpoint
import RunBoard.Proofs.Url.Below

/-!
# What an address names

The gateway names a run, a node or a job by one segment of a path. An id that is encoded
stays one segment, and the segment reads back as the id, unless the id is one that every
path takes for a level: a single dot, or two of them.
-/

namespace RunBoard

open Text (Utf8.text? Percent.decode Percent.encodeComponent)
open Url (Path isLevel place)

/-! ## Resources -/

/-- What the gateway has an address for. -/
inductive Resource where
  | run (id : String)
  | kill (id : String)
  | logs (id node : String) (stream : LogStream)
  | artifacts (id node : String)
  | metrics (id node : String)
  | job (name : String)
  deriving DecidableEq, Repr

namespace Resource

/-- The path that is asked for; log lines may be asked for from a time on. -/
def path (since : Option Timestamp) : Resource → String
  | run id => Endpoint.run id
  | kill id => Endpoint.killRun id
  | logs id node stream => Endpoint.logsSince id node stream since
  | artifacts id node => Endpoint.artifacts id node
  | metrics id node => Endpoint.metrics id node
  | job name => Endpoint.job name

/-- The query behind the path. -/
def query (since : Option Timestamp) : Resource → List Char
  | logs _ _ _ => since.elim [] fun time =>
      "?since=".toList ++ (Percent.encodeComponent time.isoText).toList
  | _ => []

def collection : Resource → String
  | job _ => "jobs"
  | _ => "run"

/-- What is named below the collection. -/
def details : Resource → List String
  | run id => [id]
  | kill id => [id, "kill"]
  | logs id node stream => [id, "logs", node, stream.name]
  | artifacts id node => [id, "artifacts", node]
  | metrics id node => [id, "metrics", node]
  | job name => [name]

/-- The words of the path, as they are meant. -/
def words (resource : Resource) : List String :=
  ["api", "v1", resource.collection] ++ resource.details

/-- Whether every word is a name, and none stands for a level of the path. -/
def Plain (resource : Resource) : Prop := ∀ word ∈ resource.words, word ≠ "." ∧ word ≠ ".."

instance (resource : Resource) : Decidable resource.Plain :=
  inferInstanceAs (Decidable (∀ word ∈ resource.words, word ≠ "." ∧ word ≠ ".."))

theorem words_injective {first second : Resource} (same : first.words = second.words) :
    first = second := by
  cases first <;> cases second <;> simp_all [words, collection, details]
  case logs.logs stream _ _ other =>
    cases stream <;> cases other <;> simp_all [LogStream.name]

end Resource

/-! ## Segments -/

/-- A word as a segment of a path. -/
def encodedWord (word : String) : List Char := (Percent.encodeComponent word).toList

/-- The text that a segment of a path stands for. -/
def segmentText? (segment : List Char) : Option String := Utf8.text? (Percent.decode segment)

theorem segmentText?_encodedWord (word : String) :
    segmentText? (encodedWord word) = some word := by
  rw [segmentText?, encodedWord, Text.Percent.decode_encodeComponent, Text.Utf8.text?_bytes]

theorem isEncodedChar_of_mem {c : Char} {word : String} (member : c ∈ encodedWord word) :
    Text.Percent.isEncodedChar c := by
  rw [encodedWord, Percent.encodeComponent, String.toList_ofList] at member
  exact Text.Percent.isEncodedChar_of_mem_encode member

/-- No character of an encoded word has a meaning of its own in a path. -/
theorem plain_of_mem_encodedWord {c : Char} {word : String} (member : c ∈ encodedWord word) :
    32 < c.toNat ∧ Url.endsAuthority true c = false ∧ Url.keptInPath c = true := by
  have table := Text.Percent.of_isEncodedChar
    (fun c => decide (32 < c.toNat) && !Url.endsAuthority true c && Url.keptInPath c)
    (by decide) (isEncodedChar_of_mem member)
  simpa [and_assoc] using table

theorem segmentText?_of_isLevel {segment : List Char} (level : isLevel segment) :
    segmentText? segment = some "." ∨ segmentText? segment = some ".." := by
  rcases Bool.or_eq_true_iff.1 level with dot | dots
  · left
    rw [segmentText?, Url.decode_of_isDot dot]
    exact Text.Utf8.text?_bytes "."
  · right
    rw [segmentText?, Url.decode_of_isDoubleDot dots]
    exact Text.Utf8.text?_bytes ".."

/-- A word stands for a level exactly when it is a single dot or two. -/
theorem isLevel_encodedWord (word : String) :
    isLevel (encodedWord word) = false ↔ word ≠ "." ∧ word ≠ ".." := by
  constructor
  · intro name
    constructor
    · rintro rfl
      revert name
      decide
    · rintro rfl
      revert name
      decide
  · rintro ⟨dot, dots⟩
    cases level : isLevel (encodedWord word) with
    | false => rfl
    | true =>
      exfalso
      have reads := segmentText?_of_isLevel level
      rw [segmentText?_encodedWord] at reads
      rcases reads with reads | reads
      · exact dot (Option.some.inj reads)
      · exact dots (Option.some.inj reads)

/-! ## Requests -/

namespace Resource

/-- The segments of the path, as they are written. -/
def segments (resource : Resource) : List (List Char) := resource.words.map encodedWord

/-- Words that no caller chooses are written as they are. -/
theorem encodedWord_fixed :
    encodedWord "api" = ['a', 'p', 'i'] ∧ encodedWord "v1" = ['v', '1'] ∧
      encodedWord "run" = ['r', 'u', 'n'] ∧ encodedWord "jobs" = ['j', 'o', 'b', 's'] ∧
      encodedWord "kill" = "kill".toList ∧ encodedWord "logs" = "logs".toList ∧
      encodedWord "artifacts" = "artifacts".toList ∧ encodedWord "metrics" = "metrics".toList := by
  decide

theorem encodedWord_stream (stream : LogStream) :
    encodedWord stream.name = stream.name.toList := by
  cases stream <;> decide

theorem path_toList (since : Option Timestamp) (resource : Resource) :
    (resource.path since).toList =
      Path.ofSegments resource.segments ++ resource.query since := by
  obtain ⟨api, version, run, jobs, kill, logs, artifacts, metrics⟩ := encodedWord_fixed
  have encoded (word : String) : (Percent.encodeComponent word).toList = encodedWord word := rfl
  cases resource <;> cases since
  all_goals
    simp only [path, Endpoint.run, Endpoint.killRun, Endpoint.logs, Endpoint.logsSince,
      Endpoint.artifacts, Endpoint.metrics, Endpoint.job, Endpoint.base, query, segments, words,
      collection, details, Path.ofSegments, toString, String.toList_append, List.map_cons,
      List.map_nil, List.flatMap_cons, List.flatMap_nil, List.cons_append, List.nil_append,
      encoded, api, version, run, jobs, kill, logs, artifacts, metrics, encodedWord_stream,
      Option.elim]
    simp

theorem visible_path (since : Option Timestamp) (resource : Resource) :
    ∀ c ∈ (resource.path since).toList, 32 < c.toNat := by
  intro c member
  rw [path_toList] at member
  rcases List.mem_append.1 member with member | member
  · obtain ⟨segment, among, member⟩ := List.mem_flatMap.1 member
    obtain ⟨word, -, rfl⟩ := List.mem_map.1 among
    rcases List.mem_cons.1 member with rfl | member
    · decide
    · exact (plain_of_mem_encodedWord member).1
  · unfold query at member
    split at member
    · cases since with
      | none => contradiction
      | some time =>
        rcases List.mem_append.1 member with member | member
        · have shown : ∀ c ∈ "?since=".toList, 32 < c.toNat := by simp
          exact shown c member
        · exact (plain_of_mem_encodedWord member).1
    · contradiction

theorem query_head (since : Option Timestamp) (resource : Resource) :
    ∀ c ∈ (resource.query since).head?, c = '?' := by
  cases resource with
  | logs id node stream => cases since <;> simp [query]
  | _ => simp [query]

/-- The URL of a resource is one below the base, whatever its words are. -/
theorem resolve_path {base : BaseUrl} {before : List (List Char)} (web : base.url.IsWeb)
    (under : base.url.path = .rooted (before ++ [[]])) (since : Option Timestamp)
    (resource : Resource) :
    base.resolve (resource.path since) =
      .ok (Url.withTrailer base.url.scheme base.url.authority
        (.rooted (place false before resource.segments))
        ((Path.ofSegments resource.segments ++ resource.query since).drop 1)) := by
  have first : resource.segments =
      ['a', 'p', 'i'] :: (["v1", resource.collection] ++ resource.details).map encodedWord := by
    simp [segments, words, encodedWord_fixed.1]
  rw [← path_toList, first]
  apply BaseUrl.resolve_below (resource.query since) web under
  · rw [path_toList, first]
  · exact visible_path since resource
  · intro segment member c inside
    obtain ⟨word, -, rfl⟩ := List.mem_map.1 member
    exact (plain_of_mem_encodedWord inside).2.1
  · exact query_head since resource

end Resource

/-! ## Names -/

/-- Whether a URL is at the origin of the base, and its path is that of the base with these
words behind it, one segment for each. -/
structure Names (base : BaseUrl) (url : Url) (words : List String) : Prop where
  origin : base.url.sameOrigin url = true
  below : ∃ rest, url.path.text = base.url.path.text ++ rest ∧
    (Url.splitAt (· = '/') rest).map segmentText? = words.map some

/-- A URL names one list of words at most. -/
theorem Names.unique {base : BaseUrl} {url : Url} {first second : List String}
    (names : Names base url first) (others : Names base url second) : first = second := by
  obtain ⟨rest, path, reads⟩ := names.below
  obtain ⟨rest', path', reads'⟩ := others.below
  obtain rfl : rest = rest' := List.append_cancel_left (path.symm.trans path')
  have same : first.map some = second.map some := reads.symm.trans reads'
  exact (List.map_inj_right fun _ _ => Option.some.inj).1 same

namespace Resource

theorem kept_of_mem_segments {resource : Resource} {segment : List Char}
    (member : segment ∈ resource.segments) : ∀ c ∈ segment, Url.keptInPath c := by
  obtain ⟨word, -, rfl⟩ := List.mem_map.1 member
  intro c inside
  exact (plain_of_mem_encodedWord inside).2.2

theorem unslashed_of_mem_segments {resource : Resource} {segment : List Char}
    (member : segment ∈ resource.segments) : ∀ c ∈ segment, decide (c = '/') = false := by
  obtain ⟨word, -, rfl⟩ := List.mem_map.1 member
  intro c inside
  have := (plain_of_mem_encodedWord inside).2.1
  simp only [Url.endsAuthority, Url.isSlash, Bool.or_eq_false_iff] at this
  exact this.1.1.1

theorem reads_segments (resource : Resource) :
    resource.segments.map segmentText? = resource.words.map some := by
  unfold segments
  induction resource.words with
  | nil => rfl
  | cons word words ih =>
    rw [List.map_cons, List.map_cons, List.map_cons, segmentText?_encodedWord, ih]

theorem plain_iff (resource : Resource) :
    resource.Plain ↔ ∀ segment ∈ resource.segments, isLevel segment = false := by
  simp [Plain, segments, isLevel_encodedWord]

variable {base : BaseUrl} {url : Url} {before : List (List Char)} {resource : Resource}

theorem names_of_plain (origin : base.url.sameOrigin url = true)
    (under : base.url.path = .rooted (before ++ [[]]))
    (path : url.path = .rooted (place false before resource.segments)) (plain : resource.Plain) :
    Names base url resource.words := by
  have placed := Url.place_names before (resource.plain_iff.1 plain)
    fun segment => kept_of_mem_segments
  obtain ⟨first, others, written⟩ : ∃ first others, resource.segments = first :: others :=
    ⟨_, _, rfl⟩
  refine ⟨origin, first ++ Path.ofSegments others, ?_, ?_⟩
  · rw [path, placed, under, written]
    simp [Path.text, Path.ofSegments]
  · rw [Url.splitAt_segments (by decide), ← written, reads_segments]
    intro segment member
    rw [← written] at member
    exact unslashed_of_mem_segments member

/-- The segments above the ones that a caller chooses. -/
def top (resource : Resource) : List (List Char) :=
  ["api", "v1", resource.collection].map encodedWord

theorem segments_eq (resource : Resource) :
    resource.segments = resource.top ++ resource.details.map encodedWord := by
  rw [segments, words, List.map_append, top]

theorem top_names (resource : Resource) : ∀ segment ∈ resource.top, isLevel segment = false := by
  have runs : ∀ segment ∈ ["api", "v1", "run"].map encodedWord, isLevel segment = false := by
    decide
  have jobs : ∀ segment ∈ ["api", "v1", "jobs"].map encodedWord, isLevel segment = false := by
    decide
  cases resource with
  | job name => exact jobs
  | _ => exact runs

/-- No more segments can stand for the level above than there are segments on top. -/
theorem countP_details_le (resource : Resource) :
    (resource.details.map encodedWord).countP Url.isDoubleDot ≤ resource.top.length := by
  have most := List.countP_le_length (p := Url.isDoubleDot) (l := resource.details.map encodedWord)
  cases resource with
  | logs id node stream =>
    -- Of the four words below the collection one is fixed.
    have fixed : Url.isDoubleDot (encodedWord "logs") = false := by decide
    have others := List.countP_le_length (p := Url.isDoubleDot)
      (l := [encodedWord node, encodedWord stream.name])
    have first : (if Url.isDoubleDot (encodedWord id) then 1 else 0) ≤ 1 := by split <;> omega
    simp only [details, top, List.map_cons, List.map_nil, List.countP_cons, fixed,
      List.length_cons, List.length_nil, Bool.false_eq_true, if_false] at others ⊢
    omega
  | _ => exact Nat.le_trans most (by simp [details, top])

theorem plain_of_names (under : base.url.path = .rooted (before ++ [[]]))
    (path : url.path = .rooted (place false before resource.segments))
    (names : Names base url resource.words) : resource.Plain := by
  obtain ⟨rest, text, reads⟩ := names.below
  have kept : ∀ segment ∈ resource.top, ∀ c ∈ segment, Url.keptInPath c := by
    intro segment member
    have among : segment ∈ resource.segments := by
      rw [segments_eq]
      exact List.mem_append_left _ member
    exact kept_of_mem_segments among
  have split : place false before resource.segments =
      before ++ place false [] resource.segments := by
    rw [segments_eq]
    exact Url.place_below before resource.top_names kept resource.countP_details_le
  have added : Path.ofSegments (place false [] resource.segments) = '/' :: rest := by
    rw [path, split, under] at text
    simpa [Path.text, Url.ofSegments_append, Path.ofSegments] using text
  have unslashed : ∀ segment ∈ place false [] resource.segments,
      ∀ c ∈ segment, decide (c = '/') = false := by
    intro segment member c inside
    rcases Url.mem_place member with known | rfl | ⟨written, among, rfl⟩
    · contradiction
    · contradiction
    · rw [Text.Percent.encode_of_kept (kept_of_mem_segments among)] at inside
      exact unslashed_of_mem_segments among c inside
  have parts : Url.splitAt (· = '/') rest = place false [] resource.segments := by
    cases placed : place false [] resource.segments with
    | nil =>
      rw [placed] at added
      contradiction
    | cons first others =>
      rw [placed] at added unslashed
      rw [Url.ofSegments_cons, List.cons.injEq] at added
      rw [← added.2]
      exact Url.splitAt_segments (by decide) unslashed
  rw [plain_iff]
  apply Url.names_of_place_reads segmentText? []
  · intro segment level
    have nothing : segmentText? [] = some "" := by decide
    rw [nothing]
    rcases segmentText?_of_isLevel level with reads | reads <;> rw [reads] <;> decide
  · rw [← parts, reads, List.nil_append, reads_segments]

/-- Every request for a resource goes to the origin of the base, and its path is the path of
the base with a segment for each word behind it that reads as that word, exactly when no word
is one that paths take for a level. So two resources without such words are never asked for
at one URL. -/
theorem address_names_resource_iff_plain (server : String) (base : BaseUrl)
    (accepted : BaseUrl.parse server = .ok base) (web : base.url.IsWeb) :
    base.url.path.text.getLast? = some '/' ∧
    (∀ (since : Option Timestamp) (resource : Resource),
      ∃ url, base.resolve (resource.path since) = .ok url ∧ base.url.sameOrigin url = true ∧
        (Names base url resource.words ↔ resource.Plain)) ∧
    (∀ (since since' : Option Timestamp) (first second : Resource),
      first.Plain → second.Plain →
      base.resolve (first.path since) = base.resolve (second.path since') → first = second) := by
  obtain ⟨authority, before, host, under⟩ := BaseUrl.shape_of_parse accepted web
  have asked (since : Option Timestamp) (resource : Resource) :
      ∃ url, base.resolve (resource.path since) = .ok url ∧ base.url.sameOrigin url = true ∧
        (Names base url resource.words ↔ resource.Plain) := by
    have origin : base.url.sameOrigin _ = true :=
      BaseUrl.sameOrigin_of_shared web host rfl rfl
    exact ⟨_, resolve_path web under since resource, origin, plain_of_names under rfl,
      names_of_plain origin under rfl⟩
  refine ⟨?_, asked, ?_⟩
  · rw [under]
    simp [Path.text, Path.ofSegments]
  · intro since since' first second plain plain' same
    obtain ⟨url, found, -, names⟩ := asked since first
    obtain ⟨url', found', -, names'⟩ := asked since' second
    obtain rfl : url = url' := Except.ok.inj (found.symm.trans (same.trans found'))
    exact words_injective ((names.2 plain).unique (names'.2 plain'))

/-- A gateway below a path of its own. -/
def exampleBase : BaseUrl where
  url :=
    { scheme := "http".toList
      authority := some ⟨[], [], .domain "gw.local".toList, some 8080⟩
      path := .rooted ["accio".toList, []]
      query := none
      fragment := none }

theorem parse_exampleBase : BaseUrl.parse "http://gw.local:8080/accio" = .ok exampleBase := rfl

/-- A slash, a percent sign and a letter outside of ASCII stay inside of their segment. -/
theorem node_with_slash_is_named :
    ∃ url, exampleBase.resolve ((logs "a%2e/é" ".hidden" .stdout).path none) = .ok url ∧
      Names exampleBase url ["api", "v1", "run", "a%2e/é", "logs", ".hidden", "stdout"] := by
  obtain ⟨-, asked, -⟩ :=
    address_names_resource_iff_plain _ exampleBase parse_exampleBase (.inl rfl)
  obtain ⟨url, found, -, names⟩ := asked none (logs "a%2e/é" ".hidden" .stdout)
  exact ⟨url, found, names.2 (by decide)⟩

/-- The run of two dots is not killed at an address of its own, and the run of one dot is
asked for where the run without a name is. -/
theorem dotted_runs_are_not_named :
    BaseUrl.parse "http://gw.local:8080/accio" = .ok exampleBase ∧
    (∃ url, exampleBase.resolve ((kill "..").path none) = .ok url ∧
      url.path.text = "/accio/api/v1/kill".toList ∧
      ¬ Names exampleBase url ["api", "v1", "run", "..", "kill"]) ∧
    exampleBase.resolve ((run ".").path none) = exampleBase.resolve ((run "").path none) := by
  have web : exampleBase.url.IsWeb := .inl rfl
  have under : exampleBase.url.path = .rooted (["accio".toList] ++ [[]]) := rfl
  have killed : place false ["accio".toList] (kill "..").segments =
      ["accio".toList, "api".toList, "v1".toList, "kill".toList] := by decide
  have asked : place false ["accio".toList] (run ".").segments =
      place false ["accio".toList] (run "").segments := by decide
  refine ⟨parse_exampleBase, ⟨_, resolve_path web under none (kill ".."), ?_, ?_⟩, ?_⟩
  · rw [killed]
    rfl
  · intro names
    have plain : (kill "..").Plain := plain_of_names under rfl names
    revert plain
    decide
  · rw [resolve_path web under, resolve_path web under, asked]
    congr 1

end Resource

end RunBoard
