import Mathlib.Data.List.Induction
import RunBoard.Proofs.Request.Await
import RunBoard.Proofs.View.Round
import RunBoard.View.Standard

/-!
# What the tail of a log shows

A tail asks for the lines after the time of the last line that it knows. Lines of one
millisecond may come in parts: those that come after a poll has seen the first of them are
never asked for. Apart from these the tail has every line of the log, once and in order.
-/

namespace RunBoard

/-! ## Logs -/

/-- The lines after a time, as the gateway answers a request; all of them without a time. -/
def linesAfter : Option Timestamp → List LogLine → List LogLine
  | none, lines => lines
  | some since, lines => lines.filter fun line => since.before line.createdAt

/-- The time that the next request starts from. -/
def cursor (known : List LogLine) : Option Timestamp := known.getLast?.map LogLine.createdAt

/-- No line is older than one before it. -/
def Chronological (log : List LogLine) : Prop :=
  log.Pairwise fun first second => first.createdAt.millis ≤ second.createdAt.millis

instance (log : List LogLine) : Decidable (Chronological log) :=
  inferInstanceAs (Decidable (List.Pairwise _ log))

/-- Whether the log has grown, after it was `older`, by a line of the same millisecond as the
last line there was. -/
def Splits (older log : List LogLine) : Prop :=
  ∃ last ∈ older.getLast?, ∃ line ∈ log.drop older.length, line.createdAt = last.createdAt

/-- The lines that a tail knows after it has been answered from these logs. -/
def received (logs : List (List LogLine)) : List LogLine :=
  logs.foldl (fun known log => known ++ linesAfter (cursor known) log) []

theorem received_concat (logs : List (List LogLine)) (log : List LogLine) :
    received (logs ++ [log]) = received logs ++ linesAfter (cursor (received logs)) log := by
  simp [received]

theorem millis_le_cursor {log : List LogLine} (ordered : Chronological log) {last : LogLine}
    (ends : log.getLast? = some last) :
    ∀ line ∈ log, line.createdAt.millis ≤ last.createdAt.millis := by
  obtain ⟨front, rfl⟩ := List.getLast?_eq_some_iff.1 ends
  intro line member
  rcases List.mem_append.1 member with member | member
  · exact (List.pairwise_append.1 ordered).2.2 line member last List.mem_cons_self
  · obtain rfl := List.mem_singleton.1 member
    exact Int.le_refl _

/-- Lines up to a time are none of those after it. -/
theorem filter_eq_nil_of_le {lines : List LogLine} {since : Timestamp}
    (before : ∀ line ∈ lines, line.createdAt.millis ≤ since.millis) :
    lines.filter (fun line => since.before line.createdAt) = [] := by
  rw [List.filter_eq_nil_iff]
  intro line member
  have := before line member
  simp [Timestamp.before]
  omega

/-! ## One poll -/

/-- What is known is a part of the log, up to the time of its last line. -/
structure Caught (known log : List LogLine) : Prop where
  part : known.Sublist log
  upTo : cursor known = cursor log

/-- A log that has grown: its lines beyond the old ones are those that the next request
can find. -/
theorem linesAfter_of_cursor {older added : List LogLine}
    (ordered : Chronological (older ++ added)) {last : LogLine}
    (ends : older.getLast? = some last) :
    linesAfter (some last.createdAt) (older ++ added) =
      added.filter fun line => last.createdAt.before line.createdAt := by
  have before := millis_le_cursor (List.pairwise_append.1 ordered).1 ends
  rw [linesAfter, List.filter_append, filter_eq_nil_of_le before, List.nil_append]

theorem splits_iff {older added : List LogLine} {last : LogLine}
    (ends : older.getLast? = some last) :
    Splits older (older ++ added) ↔ ∃ line ∈ added, line.createdAt = last.createdAt := by
  simp [Splits, ends]

theorem Splits.append {older log : List LogLine} (splits : Splits older log)
    (added : List LogLine) : Splits older (log ++ added) := by
  obtain ⟨last, ends, line, member, same⟩ := splits
  refine ⟨last, ends, line, ?_, same⟩
  rw [List.drop_append]
  exact List.mem_append_left _ member

/-- A line that shares its time with an old one shares it with every line in between. -/
theorem splits_append {earlier older added : List LogLine} (grown : earlier <+: older)
    (ordered : Chronological (older ++ added)) (splits : Splits earlier (older ++ added)) :
    Splits earlier older ∨ Splits older (older ++ added) := by
  obtain ⟨last, ends, line, member, same⟩ := splits
  rw [List.drop_append_of_le_length grown.length_le] at member
  rcases List.mem_append.1 member with member | member
  · exact .inl ⟨last, ends, line, member, same⟩
  · right
    have among : last ∈ older := grown.subset (List.mem_of_getLast? ends)
    cases final : older.getLast? with
    | none =>
      rw [List.getLast?_eq_none_iff.1 final] at among
      contradiction
    | some newest =>
      obtain ⟨before, -, across⟩ := List.pairwise_append.1 ordered
      have most := millis_le_cursor before final last among
      have least := across newest (List.mem_of_getLast? final) line member
      rw [splits_iff final]
      refine ⟨line, member, Timestamp.eq_of_millis ?_⟩
      rw [same] at least ⊢
      omega

/-- Added lines are all found unless one of them has the time of the last line before. -/
theorem filter_eq_added_iff {older added : List LogLine}
    (ordered : Chronological (older ++ added)) {last : LogLine}
    (ends : older.getLast? = some last) :
    added.filter (fun line => last.createdAt.before line.createdAt) = added ↔
      ¬ Splits older (older ++ added) := by
  have later : ∀ line ∈ added, last.createdAt.millis ≤ line.createdAt.millis := by
    intro line member
    exact (List.pairwise_append.1 ordered).2.2 last (List.mem_of_getLast? ends) line member
  rw [List.filter_eq_self, splits_iff ends, not_exists]
  apply forall_congr'
  intro line
  rw [not_and]
  apply forall_congr'
  intro member
  have := later line member
  simp only [Timestamp.before, decide_eq_true_eq]
  constructor
  · intro beyond same
    rw [same] at beyond
    omega
  · intro other
    have : last.createdAt.millis ≠ line.createdAt.millis := fun same =>
      other (Timestamp.eq_of_millis same.symm)
    omega

theorem cursor_append (first second : List LogLine) :
    cursor (first ++ second) = (cursor second <|> cursor first) := by
  unfold cursor
  rw [List.getLast?_append]
  cases second.getLast? <;> rfl

/-- The lines that are found end at the time that the whole log ends at. -/
theorem cursor_filter {older added : List LogLine}
    (ordered : Chronological (older ++ added)) {last : LogLine}
    (ends : older.getLast? = some last) :
    (cursor (added.filter fun line => last.createdAt.before line.createdAt) <|> cursor older) =
      cursor (older ++ added) := by
  rw [cursor_append]
  cases final : added.getLast? with
  | none =>
    rw [List.getLast?_eq_none_iff.1 final]
    rfl
  | some line =>
    obtain ⟨front, rfl⟩ := List.getLast?_eq_some_iff.1 final
    have most := millis_le_cursor (List.pairwise_append.1 ordered).2.1 final
    have least := (List.pairwise_append.1 ordered).2.2 last (List.mem_of_getLast? ends) line
      (List.mem_of_getLast? final)
    cases beyond : last.createdAt.before line.createdAt with
    | true => simp [cursor, List.filter_append, beyond]
    | false =>
      simp only [Timestamp.before, decide_eq_false_iff_not, Int.not_lt] at beyond
      have none := filter_eq_nil_of_le fun other member =>
        Int.le_trans (most other member) beyond
      have same : line.createdAt = last.createdAt := Timestamp.eq_of_millis (by omega)
      rw [none]
      simp [cursor, ends, same]

/-- One poll leaves the tail with a part of the log, and with all of it if it had all of it
before and the log has not been split. -/
theorem caught_step {known older added : List LogLine} (ordered : Chronological (older ++ added))
    (caught : Caught known older) :
    Caught (known ++ linesAfter (cursor known) (older ++ added)) (older ++ added) ∧
      (known ++ linesAfter (cursor known) (older ++ added) = older ++ added ↔
        known = older ∧ ¬ Splits older (older ++ added)) := by
  cases ends : older.getLast? with
  | none =>
    obtain rfl := List.getLast?_eq_none_iff.1 ends
    obtain rfl := List.sublist_nil.1 caught.part
    refine ⟨⟨List.Sublist.refl _, rfl⟩, ?_⟩
    simp [linesAfter, cursor, Splits]
  | some last =>
    have since : cursor known = some last.createdAt := by
      rw [caught.upTo, cursor, ends]
      rfl
    rw [since, linesAfter_of_cursor ordered ends]
    have part := caught.part.append
      (List.filter_sublist (p := fun line => last.createdAt.before line.createdAt) (l := added))
    refine ⟨⟨part, ?_⟩, ?_⟩
    · rw [cursor_append, caught.upTo, cursor_filter ordered ends]
    · rw [← filter_eq_added_iff ordered ends]
      constructor
      · intro whole
        -- Both parts are as long as they can be.
        have size := congrArg List.length whole
        have first := caught.part.length_le
        have second := (List.filter_sublist (p := fun line =>
          last.createdAt.before line.createdAt) (l := added)).length_le
        rw [List.length_append, List.length_append] at size
        exact ⟨caught.part.eq_of_length (by omega), List.filter_sublist.eq_of_length (by omega)⟩
      · rintro ⟨rfl, all⟩
        rw [all]

/-! ## Many polls -/

theorem caught_received {logs : List (List LogLine)} {log : List LogLine}
    (grows : (logs ++ [log]).Pairwise (· <+: ·)) (ordered : Chronological log) :
    Caught (received (logs ++ [log])) log ∧
      (received (logs ++ [log]) = log ↔ ∀ older ∈ logs, ¬ Splits older log) := by
  induction logs using List.reverseRecOn generalizing log with
  | nil =>
    have all : received ([] ++ [log]) = log := rfl
    rw [all]
    exact ⟨⟨List.Sublist.refl _, rfl⟩, by simp⟩
  | append_singleton logs older ih =>
    obtain ⟨before, -, last⟩ := List.pairwise_append.1 grows
    obtain ⟨added, rfl⟩ := last older (by simp) log (by simp)
    obtain ⟨caught, whole⟩ := ih before (List.pairwise_append.1 ordered).1
    obtain ⟨next, all⟩ := caught_step ordered caught
    rw [received_concat]
    refine ⟨next, all.trans ?_⟩
    rw [whole]
    constructor
    · rintro ⟨before', notNow⟩ earlier member splits
      rcases List.mem_append.1 member with member | member
      · have grown : earlier <+: older :=
          (List.pairwise_append.1 before).2.2 earlier member older List.mem_cons_self
        rcases splits_append grown ordered splits with splits | splits
        · exact before' earlier member splits
        · exact notNow splits
      · rw [List.mem_singleton.1 member] at splits
        exact notNow splits
    · intro never
      refine ⟨?_, never older (by simp)⟩
      intro earlier member splits
      exact never earlier (by simp [member]) (splits.append added)

/-! ## The view -/

namespace View

variable {σ : Type}
  {ask : LogTarget → Option Timestamp → Pending (StateM σ) ClientError (List LogLine)}
  {reading : σ → Except ClientError (List LogLine)} {target : LogTarget}

/-- The logs that were there at some polls; a poll that fails sees none. -/
def logsRead (reading : σ → Except ClientError (List LogLine)) (polls : List σ) :
    List (List LogLine) :=
  polls.filterMap fun world => (reading world).toOption

/-- What the next poll of a tail gets that knows these lines. -/
def tailAnswer (reading : σ → Except ClientError (List LogLine)) (known : Option (List LogLine))
    (world : σ) : Except ClientError (List LogLine) :=
  (reading world).map fun log => known.getD [] ++ linesAfter (cursor (known.getD [])) log

theorem await_tail (period : Nat)
    (answers : ∀ since world, ((ask target since).await world).1 =
      some ((reading world).map (linesAfter since)))
    (known : Option (List LogLine)) (world : σ) :
    (((tail ask period).fetch target known).await world).1 =
      some (tailAnswer reading known world) := by
  have came := Pending.await_map (answers (cursor (known.getD [])) world)
    fun newer => known.getD [] ++ newer
  refine came.trans (congrArg some ?_)
  unfold tailAnswer
  cases reading world <;> rfl

/-- Failed polls leave the tail with the lines that it has. -/
theorem known_tail (polls : List σ) :
    (known (tailAnswer reading) polls).getD [] = received (logsRead reading polls) := by
  induction polls using List.reverseRecOn with
  | nil => rfl
  | append_singleton polls world ih =>
    have step : known (tailAnswer reading) (polls ++ [world]) =
        ((tailAnswer reading (known (tailAnswer reading) polls) world).toOption <|>
          known (tailAnswer reading) polls) := by
      simp [known]
    have logs : logsRead reading (polls ++ [world]) =
        logsRead reading polls ++ (reading world).toOption.toList := by
      cases read : reading world <;> simp [logsRead, read, Except.toOption]
    rw [step, logs]
    cases read : reading world with
    | error error => simpa [tailAnswer, read, Except.map, Except.toOption] using ih
    | ok log =>
      rw [show (Except.ok log : Except ClientError (List LogLine)).toOption.toList = [log] from rfl,
        received_concat, ← ih]
      simp [tailAnswer, read, Except.map, Except.toOption]

/-- From poll to poll, lines are only ever appended to the log. -/
def Grows (reading : σ → Except ClientError (List LogLine)) (polls : List σ) : Prop :=
  polls.Pairwise fun first second => ∀ older log,
    reading first = .ok older → reading second = .ok log → older <+: log

theorem toOption_eq_some {result : Except ClientError (List LogLine)} {log : List LogLine} :
    result.toOption = some log ↔ result = .ok log := by
  cases result <;> simp [Except.toOption]

theorem mem_logsRead {polls : List σ} {log : List LogLine} :
    log ∈ logsRead reading polls ↔ ∃ world ∈ polls, reading world = .ok log := by
  simp [logsRead, toOption_eq_some]

theorem prefixes_logsRead {polls : List σ} (grows : Grows reading polls) :
    (logsRead reading polls).Pairwise (· <+: ·) := by
  unfold logsRead
  rw [List.pairwise_filterMap]
  apply grows.imp
  intro first second grown older read log read'
  exact grown older log (toOption_eq_some.1 read) (toOption_eq_some.1 read')

/-- A log to which lines are only ever appended, in the order of their times, is followed by
polls at any times, each of which may fail. A poll that succeeds shows a part of the log, in
its order and without repetition. That is the whole log exactly when no poll before has seen
the log end within the lines of one millisecond. A poll that fails shows its failure. -/
theorem tail_shows_log_iff_unsplit
    (ask : LogTarget → Option Timestamp → Pending (StateM σ) ClientError (List LogLine))
    (reading : σ → Except ClientError (List LogLine)) (period : Nat) (target : LogTarget)
    (follow : target.follow = true)
    (answers : ∀ since world, ((ask target since).await world).1 =
      some ((reading world).map (linesAfter since)))
    (polls : List σ) (now : σ) (grows : Grows reading (polls ++ [now]))
    (ordered : ∀ log, reading now = .ok log → Chronological log) :
    let view := tail ask period
    let shown := (view.load (view.polled (view.mount target) polls) now).1.published
    (∀ log, reading now = .ok log →
      ∃ lines, shown = .loaded lines ∧ lines.Sublist log ∧
        (lines = log ↔ ∀ world ∈ polls, ∀ older, reading world = .ok older → ¬ Splits older log)) ∧
    (∀ error, reading now = .error error → shown = .failed (error.notice "logs")) := by
  intro view shown
  have again : ∀ got, ∃ pause, view.refresh.pause target got = some pause := by
    intro got
    cases got <;> exact ⟨period, by simp [view, tail, Load.Refresh.pause, follow]⟩
  have published : shown = .ofOutcome
      ((tailAnswer reading (known (tailAnswer reading) polls) now).mapError fun error =>
        error.notice "logs") :=
    published_polled (await_tail period answers) again polls now
  rw [published, tailAnswer, known_tail]
  constructor
  · intro log read
    have grown : (logsRead reading polls ++ [log]).Pairwise (· <+: ·) := by
      have both := prefixes_logsRead grows
      rwa [logsRead, List.filterMap_append, ← logsRead,
        show [now].filterMap (fun world => (reading world).toOption) = [log] by
          simp [read, Except.toOption]] at both
    obtain ⟨caught, whole⟩ := caught_received grown (ordered log read)
    rw [received_concat] at caught whole
    refine ⟨_, by rw [read]; rfl, caught.part, whole.trans ?_⟩
    simp only [mem_logsRead]
    constructor
    · intro never world member older read
      exact never older ⟨world, member, read⟩
    · rintro never older ⟨world, member, read⟩
      exact never world member older read
  · intro error failed
    rw [failed]
    rfl

/-- A gateway that answers from the log in the world, or fails. -/
def exampleAsk (_ : LogTarget) (since : Option Timestamp) :
    Pending (StateM (Except ClientError (List LogLine))) ClientError (List LogLine) :=
  .request fun world => (world.map (linesAfter since), world)

def exampleTarget : LogTarget := ⟨"r1", "geoind", .stdout, true⟩

def exampleLine (millis : Int) (message : String) : LogLine :=
  ⟨(Timestamp.ofMillis? millis).getD .epoch, none, message⟩

def startedLog : List LogLine := [exampleLine 1000 "starting"]

def finishedLog : List LogLine := [exampleLine 1000 "starting", exampleLine 1001 "done"]

theorem unsplit_finishedLog : ¬ Splits startedLog finishedLog := by
  rintro ⟨last, ends, line, member, same⟩
  obtain rfl : exampleLine 1000 "starting" = last := Option.some.inj ends
  obtain rfl : line = exampleLine 1001 "done" := List.mem_singleton.1 member
  revert same
  decide

/-- A line that comes while a poll fails is shown by the next one. -/
theorem line_after_failure_is_shown :
    let view := tail exampleAsk 50
    (view.load (view.polled (view.mount exampleTarget) [.ok startedLog, .error (.http 503 "busy")])
      (.ok finishedLog)).1.published = .loaded finishedLog := by
  have grows : Grows id [.ok startedLog, .error (.http 503 "busy"), .ok finishedLog] := by
    simp [Grows, startedLog, finishedLog]
  obtain ⟨lines, shown, -, whole⟩ := (tail_shows_log_iff_unsplit exampleAsk id 50 exampleTarget rfl
    (fun _ _ => rfl) [.ok startedLog, .error (.http 503 "busy")] (.ok finishedLog) grows
    (by intro log read; cases read; decide)).1 finishedLog rfl
  have all : lines = finishedLog := by
    apply whole.2
    intro world member older read
    rcases List.mem_cons.1 member with rfl | member
    · cases read
      exact unsplit_finishedLog
    · rw [List.mem_singleton.1 member] at read
      contradiction
  rw [all] at shown
  exact shown

/-- Of two lines of one millisecond the second is lost when a poll comes between them. -/
theorem line_of_split_millisecond_is_lost :
    let view := tail exampleAsk 50
    let log := [exampleLine 1000 "starting", exampleLine 1000 "epsilon", exampleLine 1001 "done"]
    (∀ since world, ((exampleAsk exampleTarget since).await world).1 =
      some (world.map (linesAfter since))) ∧
    exampleTarget.follow = true ∧ startedLog <+: log ∧ Chronological log ∧
      (view.load (view.polled (view.mount exampleTarget) [.ok startedLog]) (.ok log)).1.published =
        .loaded finishedLog ∧ finishedLog ≠ log := by
  exact ⟨fun _ _ => rfl, rfl, by decide, by decide, rfl, by decide⟩

end View

end RunBoard
