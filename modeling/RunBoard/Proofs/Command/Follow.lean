import RunBoard.Command.Desk
import RunBoard.Proofs.Client.TwoStep
import RunBoard.Proofs.View.Following

/-!
# Following a log at the desk

The command that follows a log takes the turns of the two views and of the follower one after
the other. That is one of the orders that they can come in, so the command has written the
texts of a beginning of the log, whenever it stops. It stops when its rounds are used up, or
when the follower is done, and has written the texts of the whole log then. Two rounds are
enough where the gateway answers and the node can write no more.
-/

namespace RunBoard.Command.Desk

open Load Terminal

variable {σ α : Type}

/-- The texts of log lines, each on a line of its own. -/
def logTexts (zone : Zone) : List LogLine → String
  | [] => ""
  | line :: rest => (logText zone line ++ "\n") ++ logTexts zone rest

theorem logTexts_append (zone : Zone) (first second : List LogLine) :
    logTexts zone (first ++ second) = logTexts zone first ++ logTexts zone second := by
  induction first with
  | nil => simp [logTexts]
  | cons line rest ih => simp [logTexts, ih, String.append_assoc]

/-! ## What effects do to output and log -/

/-- Nothing is written between two worlds. Lines may be appended to the log meanwhile. -/
def Quiet (output : σ → String) (log : σ → List LogLine) (before after : σ) : Prop :=
  output after = output before ∧ log before <+: log after

/-- A desk where printing writes what is printed, and neither warnings nor requests nor pauses
write anything. -/
structure Plain (desk : Desk (StateM σ)) (period : Nat) (output : σ → String)
    (log : σ → List LogLine) : Prop where
  print (text : String) (world : σ) :
    output (desk.console.print text world).2 = output world ++ text ∧
      log world <+: log (desk.console.print text world).2
  warn (text : String) (world : σ) : Quiet output log world (desk.console.warn text world).2
  pause (millis : Nat) (world : σ) : Quiet output log world (desk.console.pause millis world).2
  tail (target : LogTarget) (known : Option (List LogLine)) (world : σ) :
    Quiet output log world (((View.logTail desk.client period).fetch target known).await world).2
  status (id : String) (known : Option Run) (world : σ) :
    Quiet output log world (((View.runWatch desk.client period).fetch id known).await world).2

/-- In a scene nothing is written but what is printed, and asking only sends a request, by which
the log may have grown. -/
theorem Plain.ofScene {desk : Desk (StateM Scene)}
    {gateway : List Http.Request → Http.Request → Http.Exchange}
    (console : desk.console = Scene.console) (host : desk.client.host = Scene.host gateway)
    {log : List Http.Request → List LogLine}
    (grows : ∀ sent more, log sent <+: log (sent ++ more)) (period : Nat) :
    Plain desk period Scene.printed fun scene => log scene.sent where
  print text scene := by
    rw [console]
    exact ⟨rfl, List.prefix_refl _⟩
  warn text scene := by
    rw [console]
    exact ⟨rfl, List.prefix_refl _⟩
  pause millis scene := by
    rw [console]
    exact ⟨rfl, List.prefix_refl _⟩
  tail target known scene := by
    have asked := (Client.settles_getJson host .unset (.list Wire.logLine)
      (Endpoint.logsSince target.run target.node target.stream (cursor (known.getD []))) scene).map
        fun newer => known.getD [] ++ newer
    have came : ((View.logTail desk.client period).fetch target known).await scene = _ :=
      asked.await ((Pending.isCancelled_map _ _).trans (desk.client.isCancelled_getJson _ _))
    rw [came]
    exact ⟨rfl, grows _ _⟩
  status id known scene := by
    have asked := Client.settles_getJson host .unset Wire.run (Endpoint.run id) scene
    have came : ((View.runWatch desk.client period).fetch id known).await scene = _ :=
      asked.await (desk.client.isCancelled_getJson _ _)
    rw [came]
    exact ⟨rfl, grows _ _⟩

section Plain

variable {desk : Desk (StateM σ)} {period : Nat} {output : σ → String} {log : σ → List LogLine}
  (plain : Plain desk period output log)

include plain

theorem Plain.printLog (lines : List LogLine) (world : σ) :
    output (desk.printLog lines world).2 = output world ++ logTexts desk.zone lines ∧
      log world <+: log (desk.printLog lines world).2 := by
  induction lines generalizing world with
  | nil => exact ⟨String.append_empty.symm, List.prefix_refl _⟩
  | cons line rest ih =>
    obtain ⟨written, grows⟩ := plain.print (logText desk.zone line ++ "\n") world
    obtain ⟨more, growsMore⟩ := ih (desk.console.print (logText desk.zone line ++ "\n") world).2
    refine ⟨?_, grows.trans growsMore⟩
    rw [logTexts, ← String.append_assoc, ← written]
    exact more

end Plain

/-! ## Turns one after the other -/

/-- Nothing is under way between two rounds. -/
def resting (world : σ) (reading : LogReading) (printed : List LogLine) : Following σ :=
  ⟨world, ⟨reading.tail, fun _ => none⟩, ⟨reading.status, fun _ => none⟩, reading.follower,
    printed⟩

/-- Some events lead from one state to the other. What is printed meanwhile is written. -/
structure Plays (desk : Desk (StateM σ)) (period : Nat) (output : σ → String)
    (log : σ → List LogLine) (first last : Following σ) : Prop where
  events : ∃ events,
    first.Appends (View.logTail desk.client period) (View.runWatch desk.client period) log events ∧
      first.run (View.logTail desk.client period) (View.runWatch desk.client period) events = last
  written : ∃ printed, last.printed = first.printed ++ printed ∧
    output last.world = output first.world ++ logTexts desk.zone printed

section Plays

variable {desk : Desk (StateM σ)} {period : Nat} {output : σ → String} {log : σ → List LogLine}
  {first second third : Following σ}

theorem Plays.refl (state : Following σ) : Plays desk period output log state state where
  events := ⟨[], trivial, rfl⟩
  written := ⟨[], by simp, by simp [logTexts]⟩

theorem Plays.trans (one : Plays desk period output log first second)
    (two : Plays desk period output log second third) :
    Plays desk period output log first third where
  events := by
    obtain ⟨events, appends, rfl⟩ := one.events
    obtain ⟨more, appendsMore, rfl⟩ := two.events
    exact ⟨events ++ more, Following.appends_append appends appendsMore, by simp [Following.run]⟩
  written := by
    obtain ⟨printed, all, texts⟩ := one.written
    obtain ⟨more, allMore, textsMore⟩ := two.written
    refine ⟨printed ++ more, by rw [allMore, all, List.append_assoc], ?_⟩
    rw [textsMore, texts, logTexts_append, String.append_assoc]

/-- An event that prints nothing. -/
theorem Plays.event {state : Following σ} (event : Following.Event σ)
    (same : (state.step (View.logTail desk.client period) (View.runWatch desk.client period)
      event).printed = state.printed)
    (quiet : Quiet output log state.world
      (state.step (View.logTail desk.client period) (View.runWatch desk.client period)
        event).world) :
    Plays desk period output log state
      (state.step (View.logTail desk.client period) (View.runWatch desk.client period) event) where
  events := ⟨[event], ⟨quiet.2, trivial⟩, rfl⟩
  written := ⟨[], by rw [same, List.append_nil], by simp [quiet.1, logTexts]⟩

/-- Turns of the tail alone. -/
theorem Plays.tail {before after : Exchange LogTarget (List LogLine) × σ}
    (turns : Relation.ReflTransGen
      (Exchange.Turns (View.logTail desk.client period) (Quiet output log)) before after)
    (state : Following σ) :
    Plays desk period output log { state with tail := before.1, world := before.2 }
      { state with tail := after.1, world := after.2 } := by
  induction turns with
  | refl => exact .refl _
  | tail _ turn ih =>
    obtain ⟨event, rfl, quiet⟩ := turn
    exact ih.trans (Plays.event (.tail event) rfl quiet)

/-- Turns of the view of the run alone. -/
theorem Plays.status {before after : Exchange String Run × σ}
    (turns : Relation.ReflTransGen
      (Exchange.Turns (View.runWatch desk.client period) (Quiet output log)) before after)
    (state : Following σ) :
    Plays desk period output log { state with status := before.1, world := before.2 }
      { state with status := after.1, world := after.2 } := by
  induction turns with
  | refl => exact .refl _
  | tail _ turn ih =>
    obtain ⟨event, rfl, quiet⟩ := turn
    exact ih.trans (Plays.event (.status event) rfl quiet)

end Plays

section Plain

variable {desk : Desk (StateM σ)} {period : Nat} {output : σ → String} {log : σ → List LogLine}
  (plain : Plain desk period output log)

include plain

theorem Plain.follow (effects : List LogFollower.Effect) (tail : Mount LogTarget (List LogLine))
    (status : Mount String Run) (follower : LogFollower) (printed : List LogLine) (world : σ) :
    let came := effects.foldlM desk.follow tail world
    (output came.2 = output world ++ logTexts desk.zone (LogFollower.printedLines effects) ∧
      log world <+: log came.2) ∧
    ∀ now : σ, effects.foldl Following.obey (resting now ⟨tail, status, follower⟩ printed) =
      resting now ⟨came.1, status, follower⟩ (printed ++ LogFollower.printedLines effects) := by
  induction effects generalizing tail printed world with
  | nil =>
    refine ⟨⟨String.append_empty.symm, List.prefix_refl _⟩, ?_⟩
    intro now
    rw [LogFollower.printedLines, List.append_nil]
    rfl
  | cons effect rest ih =>
    cases effect with
    | print lines =>
      obtain ⟨texts, grows⟩ := plain.printLog lines world
      obtain ⟨⟨more, growsMore⟩, obeyed⟩ := ih tail (printed ++ lines) (desk.printLog lines world).2
      refine ⟨⟨?_, grows.trans growsMore⟩, ?_⟩
      · rw [LogFollower.printedLines, logTexts_append, ← String.append_assoc, ← texts]
        exact more
      · intro now
        rw [LogFollower.printedLines, ← List.append_assoc]
        exact obeyed now
    | warn notice =>
      obtain ⟨texts, grows⟩ := plain.warn (notice.text ++ "\n") world
      obtain ⟨⟨more, growsMore⟩, obeyed⟩ :=
        ih tail printed (desk.console.warn (notice.text ++ "\n") world).2
      refine ⟨⟨?_, grows.trans growsMore⟩, obeyed⟩
      rw [LogFollower.printedLines, ← texts]
      · exact more
      · rintro lines ⟨⟩
    | readLast target =>
      exact ih (tail.step (.setIdentity target)).1 printed world

/-- What the follower reads, and what the desk does then. -/
theorem Plain.read (event : LogFollower.Event) (reads : Following.Event σ)
    {tail : Mount LogTarget (List LogLine)} {status : Mount String Run} {follower : LogFollower}
    {printed : List LogLine} {world : σ}
    (same : (resting world ⟨tail, status, follower⟩ printed).step
      (View.logTail desk.client period) (View.runWatch desk.client period) reads =
        (resting world ⟨tail, status, follower⟩ printed).read event) :
    let came := (follower.step event).2.foldlM desk.follow tail world
    Plays desk period output log (resting world ⟨tail, status, follower⟩ printed)
      (resting came.2 ⟨came.1, status, (follower.step event).1⟩
        (printed ++ LogFollower.printedLines (follower.step event).2)) := by
  intro came
  obtain ⟨⟨texts, grows⟩, obeyed⟩ :=
    plain.follow (follower.step event).2 tail status (follower.step event).1 printed world
  have stepped : (resting world ⟨tail, status, follower⟩ printed).read event =
      resting world ⟨came.1, status, (follower.step event).1⟩
        (printed ++ LogFollower.printedLines (follower.step event).2) := obeyed world
  rw [stepped] at same
  refine ⟨⟨[reads, .pass came.2], ⟨?_, ?_, trivial⟩, ?_⟩, ⟨_, rfl, texts⟩⟩
  · rw [same]
    exact List.prefix_refl _
  · rw [same]
    exact grows
  · simp only [Following.run, List.foldl_cons, List.foldl_nil, same]
    rfl

omit plain in
theorem Quiet.refl (world : σ) : Quiet output log world world := ⟨rfl, List.prefix_refl _⟩

section Turns

variable (tail : Mount LogTarget (List LogLine)) (status : Mount String Run)
  (follower : LogFollower) (printed : List LogLine) (world : σ)

theorem Plain.loadTail :
    let came := (View.logTail desk.client period).load tail world
    Plays desk period output log (resting world ⟨tail, status, follower⟩ printed)
      (resting came.2 ⟨came.1, status, follower⟩ printed) :=
  Plays.tail (Exchange.turns_load Quiet.refl plain.tail tail world)
    (resting world ⟨tail, status, follower⟩ printed)

theorem Plain.loadStatus :
    let came := (View.runWatch desk.client period).load status world
    Plays desk period output log (resting world ⟨tail, status, follower⟩ printed)
      (resting came.2 ⟨tail, came.1, follower⟩ printed) :=
  Plays.status (Exchange.turns_load Quiet.refl plain.status status world)
    (resting world ⟨tail, status, follower⟩ printed)

theorem Plain.readLines :
    let made := follower.step (.lines tail.published)
    let came := made.2.foldlM desk.follow tail world
    Plays desk period output log (resting world ⟨tail, status, follower⟩ printed)
      (resting came.2 ⟨came.1, status, made.1⟩ (printed ++ LogFollower.printedLines made.2)) :=
  plain.read (.lines tail.published) .readLines rfl

theorem Plain.readRun :
    let made := follower.step (.run status.published)
    let came := made.2.foldlM desk.follow tail world
    Plays desk period output log (resting world ⟨tail, status, follower⟩ printed)
      (resting came.2 ⟨came.1, status, made.1⟩ (printed ++ LogFollower.printedLines made.2)) :=
  plain.read (.run status.published) .readRun rfl

omit plain in
/-- After a pause both views ask again. -/
theorem plays_wake {later : σ} (quiet : Quiet output log world later) :
    Plays desk period output log (resting world ⟨tail, status, follower⟩ printed)
      (resting later ⟨View.wake tail, View.wake status, follower⟩ printed) := by
  have paused : Plays desk period output log (resting world ⟨tail, status, follower⟩ printed)
      (resting later ⟨tail, status, follower⟩ printed) := Plays.event (.pass later) rfl quiet
  have woken : Plays desk period output log (resting later ⟨tail, status, follower⟩ printed)
      (resting later ⟨View.wake tail, status, follower⟩ printed) :=
    Plays.event (.tail (.wake (tail.tasks.length - 1))) rfl (.refl later)
  have both : Plays desk period output log
      (resting later ⟨View.wake tail, status, follower⟩ printed)
      (resting later ⟨View.wake tail, View.wake status, follower⟩ printed) :=
    Plays.event (.status (.wake (status.tasks.length - 1))) rfl (.refl later)
  exact (paused.trans woken).trans both

end Turns

end Plain

/-! ## Rounds -/

/-- One round of the command, step by step. -/
theorem followRound_eq (desk : Desk (StateM σ)) (period : Nat) (reading : LogReading) (world : σ) :
    let shown := (View.logTail desk.client period).load reading.tail world
    let made := reading.follower.step (.lines shown.1.published)
    let told := made.2.foldlM desk.follow shown.1 shown.2
    let seen := (View.runWatch desk.client period).load reading.status told.2
    let next := made.1.step (.run seen.1.published)
    let acted := next.2.foldlM desk.follow told.1 seen.2
    let later :=
      if acted.1.published.isSettled then (desk.console.pause period acted.2).2 else acted.2
    desk.followRound period reading world =
      if made.1.isDone then (⟨told.1, reading.status, made.1⟩, told.2)
      else (⟨View.wake acted.1, View.wake seen.1, next.1⟩, later) := by
  intro shown made told seen next acted later
  rw [Desk.followRound]
  change (if made.1.isDone = true then pure _ else _ : StateM σ LogReading) told.2 = _
  split
  · rfl
  · change (if acted.1.published.isSettled = true then _ else _ : StateM σ LogReading) acted.2 = _
    simp only [later]
    split <;> rfl

/-- So many rounds, one after the other. -/
def followRounds (desk : Desk (StateM σ)) (period : Nat) : Nat → LogReading → σ → LogReading × σ
  | 0, reading, world => (reading, world)
  | count + 1, reading, world =>
      let next := desk.followRound period reading world
      desk.followRounds period count next.1 next.2

section Rounds

variable (desk : Desk (StateM σ)) (period count : Nat) (reading : LogReading) (world : σ)

theorem followLog_succ :
    desk.followLog period reading (count + 1) world =
      if (desk.followRound period reading world).1.follower.isDone then
        desk.followRound period reading world
      else desk.followLog period (desk.followRound period reading world).1 count
        (desk.followRound period reading world).2 := by
  rw [Desk.followLog]
  change (if (desk.followRound period reading world).1.follower.isDone = true then _ else _ :
    StateM σ LogReading) (desk.followRound period reading world).2 = _
  split <;> rfl

/-- The command takes rounds until the follower is done or there are no more of them. -/
theorem followLog_eq_followRounds :
    ∃ taken ≤ count,
      desk.followLog period reading count world = desk.followRounds period taken reading world ∧
      ((desk.followLog period reading count world).1.follower.isDone = true ∨ taken = count) := by
  induction count generalizing reading world with
  | zero => exact ⟨0, Nat.le_refl 0, rfl, .inr rfl⟩
  | succ count ih =>
    rw [followLog_succ]
    split
    case isTrue done => exact ⟨1, by omega, rfl, .inl done⟩
    case isFalse =>
      obtain ⟨taken, enough, came, ends⟩ := ih (desk.followRound period reading world).1
        (desk.followRound period reading world).2
      exact ⟨taken + 1, by omega, came, ends.imp_right fun all => by omega⟩

end Rounds

section Plain

variable {desk : Desk (StateM σ)} {period : Nat} {output : σ → String} {log : σ → List LogLine}
  (plain : Plain desk period output log)

include plain

/-- A round takes its turns in one of the orders that they can come in. -/
theorem Plain.followRound (reading : LogReading) (printed : List LogLine) (world : σ) :
    let came := desk.followRound period reading world
    ∃ more, Plays desk period output log (resting world reading printed)
      (resting came.2 came.1 more) := by
  intro came
  have shown := (plain.loadTail reading.tail reading.status reading.follower printed world).trans
    (plain.readLines _ reading.status reading.follower printed _)
  simp only [came, followRound_eq]
  split
  · exact ⟨_, shown⟩
  · have seen := (shown.trans (plain.loadStatus _ reading.status _ _ _)).trans
      (plain.readRun _ _ _ _ _)
    refine ⟨_, seen.trans (plays_wake _ _ _ _ _ ?_)⟩
    split
    · exact plain.pause period _
    · exact .refl _

theorem Plain.followRounds (count : Nat) (reading : LogReading) (printed : List LogLine) (world : σ) :
    let came := desk.followRounds period count reading world
    ∃ more, Plays desk period output log (resting world reading printed)
      (resting came.2 came.1 more) := by
  induction count generalizing reading printed world with
  | zero => exact ⟨printed, .refl _⟩
  | succ count ih =>
    obtain ⟨more, once⟩ := plain.followRound reading printed world
    obtain ⟨last, others⟩ := ih (desk.followRound period reading world).1 more
      (desk.followRound period reading world).2
    exact ⟨last, once.trans others⟩

/-- The command that follows a log takes its rounds until the follower is done or the rounds are
used up. Whenever it stops, it has written the texts of a beginning of the log. When the follower
is done, that is what a request for the whole log was answered with, after the tail had been told
to stop. -/
theorem followLog_writes_log {target : LogTarget} (follow : target.follow = true)
    (increasing : ∀ world, Increasing (log world))
    (honest : Following.Honest
      (fun target => desk.client.runLogs target.run target.node target.stream) log target)
    (count : Nat) (world : σ) :
    let tail := View.logTail desk.client period
    let status := View.runWatch desk.client period
    let first := Following.start tail status target target.run world
    let came := desk.followLog period (desk.startReading period target) count world
    (∃ taken ≤ count, came = desk.followRounds period taken (desk.startReading period target) world ∧
      (came.1.follower.isDone = true ∨ taken = count)) ∧
    ∃ events, first.Appends tail status log events ∧
      let last := first.run tail status events
      last.world = came.2 ∧ last.printed <+: log came.2 ∧
      output came.2 = output world ++ logTexts desk.zone last.printed ∧
      (came.1.follower.isDone = true →
        Following.WasRead tail status log target first events last.printed) := by
  intro tail status first came
  obtain ⟨taken, enough, reached, ends⟩ :=
    followLog_eq_followRounds desk period count (desk.startReading period target) world
  refine ⟨⟨taken, enough, reached, ends⟩, ?_⟩
  obtain ⟨lines, plays⟩ := plain.followRounds taken (desk.startReading period target) [] world
  rw [← reached] at plays
  obtain ⟨events, appends, ran⟩ := plays.events
  obtain ⟨printed, all, texts⟩ := plays.written
  have kept := Following.kept_run honest increasing follow appends
  have last : first.run tail status events = resting came.2 came.1 lines := ran
  have stopped : (first.run tail status events).world = came.2 := congrArg Following.world last
  have followed : (first.run tail status events).follower = came.1.follower :=
    congrArg Following.follower last
  have same : (first.run tail status events).printed = printed := last ▸ all
  refine ⟨events, appends, stopped, ?_, ?_, ?_⟩
  · rw [← stopped]
    exact kept.printed
  · rw [same]
    exact texts
  · intro done
    rw [← followed] at done
    exact kept.done done

end Plain

/-! ## The end -/

/-- Whether the gateway answers all requests for a log and for its run, and the run is one in
which the node can write no more. -/
structure Finished (desk : Desk (StateM σ)) (target : LogTarget) : Prop where
  lines (since : Option Timestamp) (world : σ) : ∃ newer,
    ((desk.client.runLogs target.run target.node target.stream since).await world).1 =
      some (.ok newer)
  run (world : σ) : ∃ run, ((desk.client.getRun target.run).await world).1 = some (.ok run) ∧
    target.isLive run = false

section End

variable {desk : Desk (StateM σ)} {period : Nat} {target : LogTarget}
  (finished : Finished desk target)

include finished

/-- The tail shows the lines that it is answered with, whether or not it is to stop then. -/
theorem Finished.load_tail {identity : LogTarget}
    (aims : ∃ follow, identity = { target with follow := follow }) {known : Option (List LogLine)}
    {mount : Mount LogTarget (List LogLine)}
    (ready : View.Ready (View.logTail desk.client period) identity known mount) (world : σ) :
    ∃ lines, ((View.logTail desk.client period).load mount world).1 =
        View.answered mount (some (.ok lines)) ∧
      ((View.logTail desk.client period).load mount world).1.published = .loaded lines := by
  obtain ⟨follow, rfl⟩ := aims
  obtain ⟨newer, came⟩ := finished.lines (cursor (known.getD [])) world
  have loaded := View.fst_load ready (Pending.await_map came fun newer => known.getD [] ++ newer)
  refine ⟨known.getD [] ++ newer, loaded, ?_⟩
  rw [loaded]
  exact View.published_answered ready _

theorem Finished.load_status {known : Option Run} {mount : Mount String Run}
    (ready : View.Ready (View.runWatch desk.client period) target.run known mount) (world : σ) :
    ∃ run, ((View.runWatch desk.client period).load mount world).1.published = .loaded run ∧
      target.isLive run = false := by
  obtain ⟨run, came, silent⟩ := finished.run world
  refine ⟨run, ?_, silent⟩
  rw [View.fst_load ready came]
  exact View.published_answered ready _

/-- In the first round the run is seen, and the tail is told to read the log once more. -/
theorem Finished.first_round (period : Nat) (follow : target.follow = true) (world : σ) :
    let came := (desk.followRound period (desk.startReading period target) world).1
    came.follower.isLast = true ∧ came.follower.isDone = false ∧
      View.Ready (View.logTail desk.client period) { target with follow := false } none
        came.tail := by
  intro came
  have asks := View.ready_mount (View.logTail desk.client period) target
  obtain ⟨lines, answered, shown⟩ := finished.load_tail ⟨true, by rw [← follow]⟩ asks world
  obtain ⟨run, seen, silent⟩ := finished.load_status
    (View.ready_mount (View.runWatch desk.client period) target.run)
    (desk.printLog lines ((View.logTail desk.client period).load
      ((View.logTail desk.client period).mount target) world).2).2
  have prints : (LogFollower.start target).step (.lines (.loaded lines)) =
      (⟨target, lines.length, false, false⟩, [.print lines]) := by
    simp [LogFollower.step, LogFollower.start]
  have stops : LogFollower.step ⟨target, lines.length, false, false⟩ (.run (.loaded run)) =
      (⟨target, lines.length, true, false⟩, [.readLast { target with follow := false }]) := by
    simp [LogFollower.step, LogFollower.lastTarget, silent]
  have printed (tail : Mount LogTarget (List LogLine)) (world : σ) :
      List.foldlM desk.follow tail [.print lines] world =
        (tail, (desk.printLog lines world).2) := rfl
  have told (tail : Mount LogTarget (List LogLine)) (other : LogTarget) (world : σ) :
      List.foldlM desk.follow tail [.readLast other] world =
        ((tail.step (.setIdentity other)).1, world) := rfl
  have differs : { target with follow := false } ≠ target := by
    intro same
    have stays := congrArg LogTarget.follow same
    rw [follow] at stays
    cases stays
  have asksAgain := View.ready_setIdentity asks rfl differs (.ok lines)
  rw [← answered] at asksAgain
  have round := followRound_eq desk period (desk.startReading period target) world
  simp only [startReading, shown, prints, printed, seen, stops, told, Bool.false_eq_true,
    if_false, View.wake_of_ready asksAgain] at round
  simp only [came, startReading, round]
  exact ⟨trivial, trivial, asksAgain⟩

/-- A round in which the tail has read the log for the last time ends the command. -/
theorem Finished.last_round {reading : LogReading} {known : Option (List LogLine)}
    (asks : View.Ready (View.logTail desk.client period) { target with follow := false } known
      reading.tail)
    (last : reading.follower.isLast = true) (going : reading.follower.isDone = false) (world : σ) :
    (desk.followRound period reading world).1.follower.isDone = true := by
  obtain ⟨lines, -, shown⟩ := finished.load_tail ⟨false, rfl⟩ asks world
  have done : (reading.follower.step (.lines (.loaded lines))).1.isDone = true := by
    simp [LogFollower.step, going, last]
  have round := followRound_eq desk period reading world
  simp only [shown, done, if_true] at round
  rw [round]
  exact done

/-- Two rounds are enough. -/
theorem Finished.isDone_followLog (follow : target.follow = true) (count : Nat) (world : σ) :
    (desk.followLog period (desk.startReading period target) (count + 2) world).1.follower.isDone =
      true := by
  obtain ⟨last, going, asks⟩ := finished.first_round period follow world
  have done := finished.last_round asks last going
    (desk.followRound period (desk.startReading period target) world).2
  rw [followLog_succ, if_neg (by simp [going]), followLog_succ, if_pos done]
  exact done

end End

/-- When the gateway answers and the node can write no more, the command ends by itself within
two rounds, and has written the texts of the whole log, as it was at some time meanwhile. -/
theorem followLog_writes_whole_log {desk : Desk (StateM σ)} {period : Nat} {output : σ → String}
    {log : σ → List LogLine} (plain : Plain desk period output log) {target : LogTarget}
    (follow : target.follow = true) (increasing : ∀ world, Increasing (log world))
    (honest : Following.Honest
      (fun target => desk.client.runLogs target.run target.node target.stream) log target)
    (finished : Finished desk target) (count : Nat) (world : σ) :
    let came := desk.followLog period (desk.startReading period target) (count + 2) world
    ∃ between, log world <+: log between ∧ log between <+: log came.2 ∧
      output came.2 = output world ++ logTexts desk.zone (log between) := by
  intro came
  obtain ⟨-, events, appends, -, begins, texts, whole⟩ :=
    followLog_writes_log plain follow increasing honest (count + 2) world
  obtain ⟨earlier, task, later, rfl, -, all⟩ := whole (finished.isDone_followLog follow count world)
  rw [all] at begins texts
  exact ⟨_, Following.prefix_of_appends (Following.appends_of_append appends), begins, texts⟩

end RunBoard.Command.Desk
