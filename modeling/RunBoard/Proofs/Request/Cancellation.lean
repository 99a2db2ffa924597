import RunBoard.Request.Pending

/-!
# How far a cancellation reaches

Every continuation of a chain is made to note that it starts, at which depth, and whether
the flag of the outer chain is set by then; a function also notes whether the flag is set when
it has run. The notes change nothing else. They show that a link of the chain itself never
starts under the set flag, and that an outcome gets past the set flag only where a function of
the chain itself was the last one to start and the flag was set while it ran. A link of a chain
that a continuation has brought in looks at a flag of its own.
-/

namespace RunBoard.Pending

variable {σ ε α β : Type}

/-! ## Notes -/

/-- What a continuation does once it has started. -/
inductive Course where
  /-- A function runs to its end, where the outer chain may have been cancelled by then. -/
  | run (cancelled : Bool)
  /-- A chain is brought in and awaited. -/
  | bringIn
  deriving DecidableEq, Repr

/-- The start of a continuation: how many continuations have brought in the chain that it is
a link of, whether the outer chain had been cancelled, and what follows. -/
structure Start where
  depth : Nat
  late : Bool
  course : Course
  deriving DecidableEq, Repr

/-- A world with the starts so far, the earliest first. -/
abbrev Noted (σ : Type) := σ × List Start

/-- Looks at a flag. -/
def look (isSet : σ → Bool) : StateM σ Bool := fun world => (isSet world, world)

/-- Looks at a flag of a world with notes. -/
def lookNoted (isSet : σ → Bool) : StateM (Noted σ) Bool := look fun noted => isSet noted.1

/-- Notes that a continuation starts which brings in a chain. -/
def note (isSet : σ → Bool) (depth : Nat) : StateM (Noted σ) Unit := fun noted =>
  ((), noted.1, noted.2 ++ [⟨depth, isSet noted.1, .bringIn⟩])

/-- Runs a function and notes the flag before it and after it. -/
def noteRun (isSet : σ → Bool) (depth : Nat) (effect : StateM σ α) : StateM (Noted σ) α :=
  fun noted =>
    let came := effect noted.1
    (came.1, came.2, noted.2 ++ [⟨depth, isSet noted.1, .run (isSet came.2)⟩])

/-- An effect that leaves the notes alone. -/
def unnoted (effect : StateM σ α) : StateM (Noted σ) α := fun noted =>
  ((effect noted.1).1, (effect noted.1).2, noted.2)

/-- A chain that does something before anything else. -/
def after {m : Type → Type} [Monad m] (first : m Unit) {α : Type} :
    Pending m ε α → Pending m ε α
  | request exchange => request (do first; exchange)
  | ready outcome => request (do first; return outcome)
  | thenTry source next => thenTry (source.after first) next
  | andThen source next => andThen (source.after first) next
  | recover source rescue => recover (source.after first) rescue
  | cancelled source => cancelled (source.after first)

/-- A chain whose continuations, and those of the chains that they bring in, note their
start. -/
def noting (isSet : σ → Bool) {α : Type} (depth : Nat) :
    Pending (StateM σ) ε α → Pending (StateM (Noted σ)) ε α
  | request exchange => request (unnoted exchange)
  | ready outcome => ready outcome
  | thenTry source next =>
      thenTry (source.noting isSet depth) fun value => noteRun isSet depth (next value)
  | andThen source next =>
      andThen (source.noting isSet depth) fun value =>
        ((next value).noting isSet (depth + 1)).after (note isSet depth)
  | recover source rescue =>
      recover (source.noting isSet depth) fun error => noteRun isSet depth (rescue error)
  | cancelled source => cancelled (source.noting isSet depth)

/-! ## One link -/

theorem unlessSet_look (isSet : σ → Bool) (outcome : Except ε α) (world : σ) :
    unlessSet (look isSet) outcome world =
      (if isSet world then none else some outcome, world) := by
  simp only [unlessSet, bind, StateT.bind, look]
  cases isSet world <;> rfl

theorem awaitFrom_request (isSet : σ → Bool) (exchange : StateM σ (Except ε α)) (world : σ) :
    awaitFrom (look isSet) (request exchange) world =
      (if isSet (exchange world).2 then none else some (exchange world).1,
        (exchange world).2) := by
  rw [awaitFrom]
  exact unlessSet_look isSet (exchange world).1 (exchange world).2

theorem awaitFrom_ready (isSet : σ → Bool) (outcome : Except ε α) (world : σ) :
    awaitFrom (look isSet) (ready outcome) world =
      (if isSet world then none else some outcome, world) := by
  rw [awaitFrom]
  exact unlessSet_look isSet outcome world

theorem awaitFrom_thenTry (isSet : σ → Bool) (source : Pending (StateM σ) ε α)
    (next : α → StateM σ (Except ε β)) (world : σ) :
    awaitFrom (look isSet) (thenTry source next) world =
      match awaitFrom (look isSet) source world with
      | (none, after) => (none, after)
      | (some outcome, after) =>
          if isSet after then (none, after)
          else
            match outcome with
            | .ok value => (some (next value after).1, (next value after).2)
            | .error error => (some (.error error), after) := by
  rw [awaitFrom]
  simp only [bind, StateT.bind]
  rcases awaitFrom (look isSet) source world with ⟨_ | outcome, after⟩
  · rfl
  · simp only [StateT.bind, look]
    cases set : isSet after with
    | true => rfl
    | false => cases outcome <;> rfl

theorem awaitFrom_recover (isSet : σ → Bool) (source : Pending (StateM σ) ε α)
    (rescue : ε → StateM σ (Except ε α)) (world : σ) :
    awaitFrom (look isSet) (recover source rescue) world =
      match awaitFrom (look isSet) source world with
      | (none, after) => (none, after)
      | (some outcome, after) =>
          if isSet after then (none, after)
          else
            match outcome with
            | .ok value => (some (.ok value), after)
            | .error error => (some (rescue error after).1, (rescue error after).2) := by
  rw [awaitFrom]
  simp only [bind, StateT.bind]
  rcases awaitFrom (look isSet) source world with ⟨_ | outcome, after⟩
  · rfl
  · simp only [StateT.bind, look]
    cases set : isSet after with
    | true => rfl
    | false => cases outcome <;> rfl

/-- The end of a link that has brought in a chain. -/
theorem release_look (isSet : σ → Bool) (came : Option (Except ε α) × σ) :
    (match came.1 with
      | none => pure none
      | some outcome => unlessSet (look isSet) outcome : StateM σ _) came.2 =
    match came with
    | (none, last) => (none, last)
    | (some outcome, last) => (if isSet last then none else some outcome, last) := by
  rcases came with ⟨_ | outcome, last⟩
  · rfl
  · exact unlessSet_look isSet outcome last

theorem awaitFrom_andThen (isSet : σ → Bool) (source : Pending (StateM σ) ε α)
    (next : α → Pending (StateM σ) ε β) (world : σ) :
    awaitFrom (look isSet) (andThen source next) world =
      match awaitFrom (look isSet) source world with
      | (none, after) => (none, after)
      | (some (.error error), after) => (some (.error error), after)
      | (some (.ok value), after) =>
          if isSet after then (none, after)
          else
            match awaitFrom (look fun _ => (next value).isCancelled) (next value) after with
            | (none, last) => (none, last)
            | (some outcome, last) => (if isSet last then none else some outcome, last) := by
  rw [awaitFrom]
  simp only [bind, StateT.bind]
  rcases awaitFrom (look isSet) source world with ⟨_ | _ | value, after⟩
  · rfl
  · rfl
  · simp only [StateT.bind, look]
    cases set : isSet after with
    | true => rfl
    | false =>
      exact release_look isSet
        (awaitFrom (look fun _ => (next value).isCancelled) (next value) after)

theorem isCancelled_after {m : Type → Type} [Monad m] (first : m Unit) {α : Type}
    (pending : Pending m ε α) : (pending.after first).isCancelled = pending.isCancelled := by
  induction pending with
  | request exchange => rfl
  | ready outcome => rfl
  | thenTry source next ih => exact ih
  | andThen source next ih => exact ih
  | recover source rescue ih => exact ih
  | cancelled source ih => rfl

theorem awaitFrom_after (flag : StateM σ Bool) (first : StateM σ Unit) {α : Type}
    (pending : Pending (StateM σ) ε α) (world : σ) :
    awaitFrom flag (pending.after first) world = awaitFrom flag pending (first world).2 := by
  induction pending with
  | request exchange => rfl
  | ready outcome => rfl
  | thenTry source next ih => simp only [after, awaitFrom, bind, StateT.bind, ih]
  | andThen source next ih => simp only [after, awaitFrom, bind, StateT.bind, ih]
  | recover source rescue ih => simp only [after, awaitFrom, bind, StateT.bind, ih]
  | cancelled source ih => simp only [after, awaitFrom, ih]

theorem isCancelled_noting (isSet : σ → Bool) (depth : Nat) {α : Type}
    (pending : Pending (StateM σ) ε α) :
    (pending.noting isSet depth).isCancelled = pending.isCancelled := by
  induction pending with
  | request exchange => rfl
  | ready outcome => rfl
  | thenTry source next ih => exact ih
  | andThen source next ih => exact ih
  | recover source rescue ih => exact ih
  | cancelled source ih => rfl

/-! ## Whole chains -/

/-- What awaiting a chain comes to without notes and with them, when the chain looks at the
flag `own` and the outer chain at `isSet`. Where `own` is set whenever `isSet` is, no link of
the chain itself starts under the set flag, and an outcome gets past the set flag only from
a function of the chain itself that was the last to start, under a flag that was not set yet
and was when it had run. -/
structure Notes (own isSet : σ → Bool) (depth : Nat) (log starts : List Start)
    (plain : Option (Except ε α) × σ) (noted : Option (Except ε α) × Noted σ) : Prop where
  same : noted = (plain.1, plain.2, log ++ starts)
  below : ∀ start ∈ starts, depth ≤ start.depth
  inTime : (∀ world, isSet world = true → own world = true) →
    ∀ start ∈ starts, start.depth = depth → start.late = false
  silent : (∀ world, isSet world = true → own world = true) →
    isSet plain.2 = true →
      plain.1 = none ∨ starts.getLast? = some ⟨depth, false, .run true⟩
  stopped : (∀ world, own world = true) → plain.1 = none ∧ starts = []

section Links

variable {own isSet : σ → Bool} {depth : Nat} {log starts : List Start} {after : σ}
  {came : Option (Except ε α)} {noted : Option (Except ε α) × Noted σ}

/-- The beginning of a chain, where no continuation is. -/
theorem Notes.began (outcome : Except ε α) (world : σ) :
    Notes own isSet depth log [] (if own world then none else some outcome, world)
      (if own world then none else some outcome, world, log) where
  same := by rw [List.append_nil]
  below := by simp
  inTime := by simp
  silent heeds set := .inl (if_pos (heeds world set))
  stopped always := ⟨if_pos (always world), rfl⟩

/-- A link whose continuation does not start. -/
theorem Notes.ended (notes : Notes own isSet depth log starts (came, after) noted)
    {outcome : Option (Except ε β)} (hidden : own after = true → outcome = none) :
    Notes own isSet depth log starts (outcome, after) (outcome, after, log ++ starts) where
  same := rfl
  below := notes.below
  inTime := notes.inTime
  silent heeds set := .inl (hidden (heeds after set))
  stopped always := ⟨hidden (always after), (notes.stopped always).2⟩

/-- A link that an error passes by. -/
theorem Notes.failed {error : ε}
    (notes : Notes own isSet depth log starts (some (.error error : Except ε α), after) noted) :
    Notes own isSet depth log starts (some (.error error : Except ε β), after)
      (some (.error error), after, log ++ starts) where
  same := rfl
  below := notes.below
  inTime := notes.inTime
  silent heeds set := by
    rcases notes.silent heeds set with hidden | last
    · contradiction
    · exact .inr last
  stopped always := by
    have hidden := (notes.stopped always).1
    contradiction

theorem late_eq_false (heeds : ∀ world, isSet world = true → own world = true)
    (unset : own after = false) : isSet after = false := by
  cases set : isSet after with
  | false => rfl
  | true =>
    rw [heeds after set] at unset
    contradiction

/-- One more continuation of the chain itself starts. -/
theorem Notes.below_concat (notes : Notes own isSet depth log starts (came, after) noted)
    (course : Course) : ∀ start ∈ starts ++ [⟨depth, isSet after, course⟩], depth ≤ start.depth := by
  intro start member
  rcases List.mem_append.1 member with member | member
  · exact notes.below start member
  · obtain rfl := List.mem_singleton.1 member
    exact Nat.le_refl depth

theorem Notes.inTime_concat (notes : Notes own isSet depth log starts (came, after) noted)
    (heeds : ∀ world, isSet world = true → own world = true) (unset : own after = false)
    (course : Course) :
    ∀ start ∈ starts ++ [⟨depth, isSet after, course⟩],
      start.depth = depth → start.late = false := by
  intro start member here
  rcases List.mem_append.1 member with member | member
  · exact notes.inTime heeds start member here
  · obtain rfl := List.mem_singleton.1 member
    change isSet after = false
    exact late_eq_false heeds unset

/-- A link whose function runs. -/
theorem Notes.ran (notes : Notes own isSet depth log starts (came, after) noted)
    (unset : own after = false) (outcome : Option (Except ε β)) (last : σ) :
    Notes own isSet depth log (starts ++ [⟨depth, isSet after, .run (isSet last)⟩])
      (outcome, last)
      (outcome, last, log ++ starts ++ [⟨depth, isSet after, .run (isSet last)⟩]) where
  same := by rw [List.append_assoc]
  below := notes.below_concat _
  inTime heeds := notes.inTime_concat heeds unset _
  silent heeds set := by
    change isSet last = true at set
    right
    rw [List.getLast?_concat, late_eq_false heeds unset, set]
  stopped always := by simp [always] at unset

/-- A link whose continuation brings in a chain of its own. -/
theorem Notes.broughtIn (notes : Notes own isSet depth log starts (came, after) noted)
    (unset : own after = false) {flag : σ → Bool} {innerStarts : List Start}
    {inner : Option (Except ε β) × σ} {innerNoted : Option (Except ε β) × Noted σ}
    (innerNotes : Notes flag isSet (depth + 1)
      (log ++ starts ++ [⟨depth, isSet after, .bringIn⟩]) innerStarts inner innerNoted)
    {outcome : Option (Except ε β)} (hidden : own inner.2 = true → outcome = none) :
    Notes own isSet depth log (starts ++ [⟨depth, isSet after, .bringIn⟩] ++ innerStarts)
      (outcome, inner.2)
      (outcome, inner.2,
        log ++ starts ++ [⟨depth, isSet after, .bringIn⟩] ++ innerStarts) where
  same := by simp only [List.append_assoc]
  below start member := by
    rcases List.mem_append.1 member with member | member
    · exact notes.below_concat _ start member
    · exact Nat.le_of_succ_le (innerNotes.below start member)
  inTime heeds start member here := by
    rcases List.mem_append.1 member with member | member
    · exact notes.inTime_concat heeds unset _ start member here
    · have := innerNotes.below start member
      omega
  silent heeds set := .inl (hidden (heeds inner.2 set))
  stopped always := by simp [always] at unset

end Links

/-- Notes change nothing that comes of a chain. -/
theorem exists_notes (isSet : σ → Bool) {α : Type} (pending : Pending (StateM σ) ε α)
    (own : σ → Bool) (depth : Nat) (world : σ) (log : List Start) :
    ∃ starts, Notes own isSet depth log starts (awaitFrom (look own) pending world)
      (awaitFrom (lookNoted own) (pending.noting isSet depth) (world, log)) := by
  -- A chain that a continuation brings in has a flag of its own, so `own` has to vary.
  induction pending generalizing own depth world log with
  | request exchange =>
    rw [noting, lookNoted, awaitFrom_request, awaitFrom_request]
    exact ⟨[], .began (exchange world).1 (exchange world).2⟩
  | ready outcome =>
    rw [noting, lookNoted, awaitFrom_ready, awaitFrom_ready]
    exact ⟨[], .began outcome world⟩
  | thenTry source next ih =>
    obtain ⟨starts, notes⟩ := ih own depth world log
    rw [noting, lookNoted, awaitFrom_thenTry, awaitFrom_thenTry, ← lookNoted, notes.same]
    generalize awaitFrom (look own) source world = plain at notes ⊢
    rcases plain with ⟨_ | outcome, last⟩
    · exact ⟨starts, notes.ended fun _ => rfl⟩
    cases set : own last with
    | true =>
      refine ⟨starts, ?_⟩
      simp only [set, if_true]
      exact notes.ended fun _ => rfl
    | false =>
      simp only [set, Bool.false_eq_true, if_false]
      cases outcome with
      | ok value => exact ⟨_, notes.ran set (some (next value last).1) (next value last).2⟩
      | error error => exact ⟨starts, notes.ended fun other => by simp [set] at other⟩
  | andThen source next ih ihNext =>
    obtain ⟨starts, notes⟩ := ih own depth world log
    rw [noting, lookNoted, awaitFrom_andThen, awaitFrom_andThen, ← lookNoted, notes.same]
    generalize awaitFrom (look own) source world = plain at notes ⊢
    rcases plain with ⟨_ | error | value, last⟩
    · exact ⟨starts, notes.ended fun _ => rfl⟩
    · exact ⟨starts, notes.failed⟩
    cases set : own last with
    | true =>
      refine ⟨starts, ?_⟩
      simp only [set, if_true]
      exact notes.ended fun _ => rfl
    | false =>
      simp only [set, Bool.false_eq_true, if_false, isCancelled_after, isCancelled_noting,
        awaitFrom_after]
      obtain ⟨innerStarts, innerNotes⟩ :=
        ihNext value (fun _ => (next value).isCancelled) (depth + 1) last
          (log ++ starts ++ [⟨depth, isSet last, .bringIn⟩])
      refine ⟨starts ++ [⟨depth, isSet last, .bringIn⟩] ++ innerStarts, ?_⟩
      have reached : awaitFrom (look fun _ => (next value).isCancelled)
          ((next value).noting isSet (depth + 1)) (note isSet depth (last, log ++ starts)).2 = _ :=
        innerNotes.same
      rw [reached]
      generalize awaitFrom (look fun _ => (next value).isCancelled) (next value) last = inner
        at innerNotes ⊢
      rcases inner with ⟨_ | outcome, final⟩
      · exact notes.broughtIn set innerNotes fun _ => rfl
      · exact notes.broughtIn set innerNotes fun set => if_pos set
  | recover source rescue ih =>
    obtain ⟨starts, notes⟩ := ih own depth world log
    rw [noting, lookNoted, awaitFrom_recover, awaitFrom_recover, ← lookNoted, notes.same]
    generalize awaitFrom (look own) source world = plain at notes ⊢
    rcases plain with ⟨_ | outcome, last⟩
    · exact ⟨starts, notes.ended fun _ => rfl⟩
    cases set : own last with
    | true =>
      refine ⟨starts, ?_⟩
      simp only [set, if_true]
      exact notes.ended fun _ => rfl
    | false =>
      simp only [set, Bool.false_eq_true, if_false]
      cases outcome with
      | ok value => exact ⟨starts, notes.ended fun other => by simp [set] at other⟩
      | error error =>
        exact ⟨_, notes.ran set (some (rescue error last).1) (rescue error last).2⟩
  | cancelled source ih => exact ih own depth world log

/-- Cancellation of a chain reaches every link of the chain itself, wherever its flag is set:
no such link starts afterwards, and no outcome comes, unless a function of the chain itself was
the last continuation to start and the flag was set while that function ran. Where the last one
to start has brought in a chain, or is a link of such a chain, nothing comes. A chain that has
been cancelled before it is awaited starts nothing at all. -/
theorem cancellation_reaches_own_links (isSet : σ → Bool) (pending : Pending (StateM σ) ε α)
    (world : σ) :
    ∃ outcome last starts,
      pending.awaitUnless (look isSet) world = (outcome, last) ∧
      (pending.noting isSet 0).awaitUnless (lookNoted isSet) (world, []) =
        (outcome, last, starts) ∧
      (∀ start ∈ starts, start.depth = 0 → start.late = false) ∧
      (isSet last = true → outcome = none ∨ starts.getLast? = some ⟨0, false, .run true⟩) ∧
      (pending.isCancelled = true → outcome = none ∧ starts = []) := by
  rw [awaitUnless, awaitUnless, isCancelled_noting]
  cases cancelled : pending.isCancelled with
  | true =>
    obtain ⟨starts, notes⟩ := exists_notes isSet pending (fun _ => true) 0 world []
    exact ⟨_, _, starts, rfl, notes.same, notes.inTime fun _ _ => rfl,
      notes.silent fun _ _ => rfl, fun _ => notes.stopped fun _ => rfl⟩
  | false =>
    obtain ⟨starts, notes⟩ := exists_notes isSet pending isSet 0 world []
    exact ⟨_, _, starts, rfl, notes.same, notes.inTime fun _ set => set,
      notes.silent fun _ set => set, fun other => by contradiction⟩

/-- The chain is cancelled at 150, while the request that its link has brought in is under
way. What is chained to that request starts at 200 nevertheless. -/
theorem brought_in_link_starts_after_cancellation :
    let slow (value : Nat) : Pending (StateM Nat) Unit Nat :=
      request fun now => (.ok value, now + 100)
    let pending := (slow 1).andThen fun value =>
      (slow (value + 1)).thenTry fun value now => (.ok (value * 2), now)
    (pending.noting (150 ≤ ·) 0).awaitUnless (lookNoted (150 ≤ ·)) (0, []) =
      (none, 200, [⟨0, false, .bringIn⟩, ⟨1, true, .run true⟩]) := by
  simp [awaitUnless, isCancelled, noting, unnoted, note, noteRun, lookNoted, isCancelled_after,
    awaitFrom_after, awaitFrom_request, awaitFrom_thenTry, awaitFrom_andThen]

/-- A link that sets the flag itself and is the last one lets its value through. -/
example :
    ((ready (.ok 1) : Pending (StateM Bool) Unit Nat).thenTry fun value _ =>
      (.ok value, true)).awaitUnless (look id) false = (some (.ok 1), true) := by
  rfl

end RunBoard.Pending
