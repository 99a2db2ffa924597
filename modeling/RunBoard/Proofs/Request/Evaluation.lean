import Mathlib.Data.List.Pairwise
import RunBoard.Proofs.Request.Cancellation

/-!
# Chains as programs over results

A chain that nobody cancels comes to what the same expression comes to over plain results: a
link that goes on from a value is a bind, one that rescues handles an error. Every continuation
has an address, the way to it from the first request on. The continuations that start are
those that the evaluation comes to, in its order and each at most once. A chain whose flag is
set by the time that its first request is answered comes to nothing and starts none of them.
-/

namespace RunBoard.Pending

variable {ε α β σ : Type}

/-! ## Evaluation -/

section Evaluation

variable {m : Type → Type} [Monad m]

/-- The same expression over results, without any flag. -/
def evaluate {α : Type} : Pending m ε α → m (Except ε α)
  | request exchange => exchange
  | ready outcome => pure outcome
  | thenTry source next => (ExceptT.mk source.evaluate >>= fun value => ExceptT.mk (next value)).run
  | andThen source next =>
      (ExceptT.mk source.evaluate >>= fun value => ExceptT.mk (next value).evaluate).run
  | recover source rescue =>
      (tryCatch (ExceptT.mk source.evaluate) fun error => ExceptT.mk (rescue error)).run
  | cancelled source => source.evaluate

/-- No chain has been cancelled, neither this one nor any that its links bring in. -/
def Uncancelled {α : Type} : Pending m ε α → Prop
  | request _ | ready _ => True
  | thenTry source _ | recover source _ => source.Uncancelled
  | andThen source next => source.Uncancelled ∧ ∀ value, (next value).Uncancelled
  | cancelled _ => False

omit [Monad m] in
theorem Uncancelled.flag {pending : Pending m ε α} (free : pending.Uncancelled) :
    pending.isCancelled = false := by
  induction pending with
  | request exchange => rfl
  | ready outcome => rfl
  | thenTry source next ih => exact ih free
  | andThen source next ih => exact ih free.1
  | recover source rescue ih => exact ih free
  | cancelled source => exact free.elim

variable [LawfulMonad m]

theorem awaitFrom_of_uncancelled {pending : Pending m ε α} (free : pending.Uncancelled) :
    awaitFrom (pure false) pending = some <$> pending.evaluate := by
  induction pending with
  | request exchange => simp [awaitFrom, unlessSet, evaluate]
  | ready outcome => simp [awaitFrom, unlessSet, evaluate]
  | thenTry source next ih =>
    rw [awaitFrom, ih free, evaluate]
    simp only [ExceptT.run, ExceptT.mk, bind, ExceptT.bind, map_eq_pure_bind, bind_assoc, pure_bind]
    apply bind_congr
    intro outcome
    cases outcome <;> simp [ExceptT.bindCont]
  | andThen source next ih ihNext =>
    rw [awaitFrom, ih free.1, evaluate]
    simp only [ExceptT.run, ExceptT.mk, bind, ExceptT.bind, map_eq_pure_bind, bind_assoc, pure_bind]
    apply bind_congr
    intro outcome
    cases outcome with
    | error error => simp [ExceptT.bindCont]
    | ok value =>
      -- The chain that is brought in looks at its own flag, which is not set either.
      simp [ExceptT.bindCont, unlessSet, (free.2 value).flag, ihNext value (free.2 value)]
  | recover source rescue ih =>
    rw [awaitFrom, ih free, evaluate]
    simp only [ExceptT.run, ExceptT.mk, tryCatch, tryCatchThe, MonadExceptOf.tryCatch,
      ExceptT.tryCatch, map_eq_pure_bind, bind_assoc, pure_bind]
    apply bind_congr
    intro outcome
    cases outcome <;> simp
  | cancelled source => exact free.elim

/-- Awaiting a chain that nobody cancels is evaluating it, whatever the effects are. -/
theorem await_of_uncancelled {pending : Pending m ε α} (free : pending.Uncancelled) :
    pending.await = some <$> pending.evaluate := by
  rw [await, awaitUnless, if_neg (by simp [free.flag]), awaitFrom_of_uncancelled free]

end Evaluation

/-! ## Continuations -/

/-- The way to a continuation: the place of its link in the chain, and then, where a link has
brought in the chain that it stands in, the place there. -/
abbrev Address := List Nat

/-- A world with the addresses of the continuations that have started, the earliest first. -/
abbrev Traced (σ : Type) := σ × List Address

def arrive (address : Address) : StateM (Traced σ) Unit := fun traced =>
  ((), traced.1, traced.2 ++ [address])

/-- An effect that leaves the addresses alone. -/
def untraced (effect : StateM σ α) : StateM (Traced σ) α := fun traced =>
  ((effect traced.1).1, (effect traced.1).2, traced.2)

/-- How many links a chain has. -/
def links {m : Type → Type} {α : Type} : Pending m ε α → Nat
  | request _ | ready _ => 0
  | thenTry source _ | andThen source _ | recover source _ => source.links + 1
  | cancelled source => source.links

/-- A chain whose continuations, and those of the chains that they bring in, note their address
when they start. -/
def tracing {α : Type} (place : Address) :
    Pending (StateM σ) ε α → Pending (StateM (Traced σ)) ε α
  | request exchange => request (untraced exchange)
  | ready outcome => ready outcome
  | thenTry source next =>
      thenTry (source.tracing place) fun value => do
        arrive (place ++ [source.links])
        untraced (next value)
  | andThen source next =>
      andThen (source.tracing place) fun value =>
        ((next value).tracing (place ++ [source.links])).after (arrive (place ++ [source.links]))
  | recover source rescue =>
      recover (source.tracing place) fun error => do
        arrive (place ++ [source.links])
        untraced (rescue error)
  | cancelled source => cancelled (source.tracing place)

/-- The continuations that the evaluation of a chain comes to, the earliest first. -/
def reached {α : Type} : Pending (StateM σ) ε α → σ → List Address
  | request _, _ | ready _, _ => []
  | thenTry source _, world =>
      source.reached world ++
        match source.evaluate world with
        | (.ok _, _) => [[source.links]]
        | (.error _, _) => []
  | andThen source next, world =>
      source.reached world ++
        match source.evaluate world with
        | (.ok value, after) =>
            [source.links] :: ((next value).reached after).map (source.links :: ·)
        | (.error _, _) => []
  | recover source _, world =>
      source.reached world ++
        match source.evaluate world with
        | (.ok _, _) => []
        | (.error _, _) => [[source.links]]
  | cancelled source, world => source.reached world

/-! ## Evaluation of a trace -/

theorem evaluate_thenTry (source : Pending (StateM σ) ε α) (next : α → StateM σ (Except ε β))
    (world : σ) :
    (thenTry source next).evaluate world =
      match source.evaluate world with
      | (.ok value, after) => next value after
      | (.error error, after) => (.error error, after) := by
  simp only [evaluate, ExceptT.run, ExceptT.mk, bind, ExceptT.bind, StateT.bind]
  rcases source.evaluate world with ⟨_ | value, after⟩ <;> rfl

theorem evaluate_andThen (source : Pending (StateM σ) ε α)
    (next : α → Pending (StateM σ) ε β) (world : σ) :
    (andThen source next).evaluate world =
      match source.evaluate world with
      | (.ok value, after) => (next value).evaluate after
      | (.error error, after) => (.error error, after) := by
  simp only [evaluate, ExceptT.run, ExceptT.mk, bind, ExceptT.bind, StateT.bind]
  rcases source.evaluate world with ⟨_ | value, after⟩ <;> rfl

theorem evaluate_recover (source : Pending (StateM σ) ε α)
    (rescue : ε → StateM σ (Except ε α)) (world : σ) :
    (recover source rescue).evaluate world =
      match source.evaluate world with
      | (.ok value, after) => (.ok value, after)
      | (.error error, after) => rescue error after := by
  simp only [evaluate, ExceptT.run, ExceptT.mk, tryCatch, tryCatchThe, MonadExceptOf.tryCatch,
    ExceptT.tryCatch, bind, StateT.bind]
  rcases source.evaluate world with ⟨_ | value, after⟩ <;> rfl

theorem evaluate_after (first : StateM σ Unit) {α : Type} (pending : Pending (StateM σ) ε α)
    (world : σ) : (pending.after first).evaluate world = pending.evaluate (first world).2 := by
  induction pending with
  | request exchange => rfl
  | ready outcome => rfl
  | thenTry source next ih => rw [after, evaluate_thenTry, evaluate_thenTry, ih]
  | andThen source next ih => rw [after, evaluate_andThen, evaluate_andThen, ih]
  | recover source rescue ih => rw [after, evaluate_recover, evaluate_recover, ih]
  | cancelled source ih => exact ih

/-- Noting addresses changes nothing that comes of a chain. -/
theorem evaluate_tracing (place : Address) (pending : Pending (StateM σ) ε α) (world : σ)
    (log : List Address) :
    (pending.tracing place).evaluate (world, log) =
      ((pending.evaluate world).1, (pending.evaluate world).2,
        log ++ (pending.reached world).map (place ++ ·)) := by
  induction pending generalizing place world log with
  | request exchange => simp [tracing, evaluate, reached, untraced]
  | ready outcome =>
    rw [reached, List.map_nil, List.append_nil]
    rfl
  | thenTry source next ih =>
    rw [tracing, evaluate_thenTry, evaluate_thenTry, ih, reached]
    rcases source.evaluate world with ⟨_ | value, after⟩
    · simp
    · simp [arrive, untraced, bind, StateT.bind]
  | andThen source next ih ihNext =>
    rw [tracing, evaluate_andThen, evaluate_andThen, ih, reached]
    rcases source.evaluate world with ⟨_ | value, after⟩
    · simp
    · simp [evaluate_after, arrive, ihNext, Function.comp_def]
  | recover source rescue ih =>
    rw [tracing, evaluate_recover, evaluate_recover, ih, reached]
    rcases source.evaluate world with ⟨_ | value, after⟩
    · simp [arrive, untraced, bind, StateT.bind]
    · simp
  | cancelled source ih => exact ih place world log

/-! ## In order and at most once -/

/-- Addresses of continuations at the first links of a chain, each before those that follow. -/
structure Ascending (links : Nat) (addresses : List Address) : Prop where
  within : ∀ address ∈ addresses, ∃ place < links, ∃ rest, address = place :: rest
  sorted : addresses.Pairwise (· < ·)

namespace Ascending

variable {count : Nat} {early : List Address}

theorem start : Ascending 0 [] := ⟨by simp, .nil⟩

/-- A link whose continuation does not start. -/
theorem skip (ascending : Ascending count early) : Ascending (count + 1) (early ++ []) where
  within address member := by
    rw [List.append_nil] at member
    obtain ⟨place, below, found⟩ := ascending.within address member
    exact ⟨place, Nat.lt_succ_of_lt below, found⟩
  sorted := by
    rw [List.append_nil]
    exact ascending.sorted

/-- A link whose continuation starts, with what starts in the chain that it brings in. -/
theorem start_at {inner : List Address} (ascending : Ascending count early)
    (sorted : inner.Pairwise (· < ·)) (proper : [] ∉ inner) :
    Ascending (count + 1) (early ++ [count] :: inner.map (count :: ·)) where
  within address member := by
    rcases List.mem_append.1 member with member | member
    · obtain ⟨place, below, found⟩ := ascending.within address member
      exact ⟨place, Nat.lt_succ_of_lt below, found⟩
    · refine ⟨count, Nat.lt_succ_self count, ?_⟩
      rcases List.mem_cons.1 member with rfl | member
      · exact ⟨[], rfl⟩
      · obtain ⟨rest, _, rfl⟩ := List.mem_map.1 member
        exact ⟨rest, rfl⟩
  sorted := by
    rw [List.pairwise_append]
    refine ⟨ascending.sorted, ?_, ?_⟩
    · rw [List.pairwise_cons]
      constructor
      · intro address member
        obtain ⟨rest, inside, rfl⟩ := List.mem_map.1 member
        cases rest with
        | nil => exact (proper inside).elim
        | cons place rest => simp
      · rw [List.pairwise_map]
        refine sorted.imp ?_
        intro first second before
        simpa [List.cons_lt_cons_iff] using before
    · -- What has started before begins below `count`, all the rest with it.
      intro first isEarly second isLate
      obtain ⟨place, below, rest, rfl⟩ := ascending.within first isEarly
      have later : ∃ rest, second = count :: rest := by
        rcases List.mem_cons.1 isLate with rfl | member
        · exact ⟨[], rfl⟩
        · obtain ⟨rest, _, rfl⟩ := List.mem_map.1 member
          exact ⟨rest, rfl⟩
      obtain ⟨rest', rfl⟩ := later
      exact List.cons_lt_cons_iff.2 (.inl below)

end Ascending

/-- The evaluation goes through a chain from its first link on. -/
theorem ascending_reached (pending : Pending (StateM σ) ε α) (world : σ) :
    Ascending pending.links (pending.reached world) := by
  induction pending generalizing world with
  | request exchange => exact .start
  | ready outcome => exact .start
  | thenTry source next ih =>
    rw [reached]
    rcases source.evaluate world with ⟨_ | value, after⟩
    · exact (ih world).skip
    · exact (ih world).start_at .nil (by simp)
  | andThen source next ih ihNext =>
    rw [reached]
    rcases source.evaluate world with ⟨_ | value, after⟩
    · exact (ih world).skip
    · refine (ih world).start_at (ihNext value after).sorted ?_
      intro member
      obtain ⟨place, below, rest, impossible⟩ := (ihNext value after).within [] member
      contradiction
  | recover source rescue ih =>
    rw [reached]
    rcases source.evaluate world with ⟨_ | value, after⟩
    · exact (ih world).start_at .nil (by simp)
    · exact (ih world).skip
  | cancelled source ih => exact ih world

/-! ## Cancellation before the first answer -/

/-- The world once the request at the start of a chain has run to its end. -/
def sourceDone {α : Type} : Pending (StateM σ) ε α → σ → σ
  | request exchange, world => (exchange world).2
  | ready _, world => world
  | thenTry source _, world | andThen source _, world | recover source _, world
  | cancelled source, world => source.sourceDone world

/-- A chain that is cancelled through the handle that was taken before its last `count` links
were chained. -/
def cancelThrough {m : Type → Type} {α : Type} (count : Nat) (pending : Pending m ε α) :
    Pending m ε α :=
  match count, pending with
  | count + 1, thenTry source next => thenTry (source.cancelThrough count) next
  | count + 1, andThen source next => andThen (source.cancelThrough count) next
  | count + 1, recover source rescue => recover (source.cancelThrough count) rescue
  | _, pending => cancelled pending

theorem isCancelled_cancelThrough {m : Type → Type} (count : Nat) (pending : Pending m ε α) :
    (pending.cancelThrough count).isCancelled = true := by
  fun_induction cancelThrough count pending with
  | case1 count between source next ih => exact ih
  | case2 count between source next ih => exact ih
  | case3 count source rescue ih => exact ih
  | case4 => rfl

theorem sourceDone_cancelThrough (count : Nat) (pending : Pending (StateM σ) ε α) (world : σ) :
    (pending.cancelThrough count).sourceDone world = pending.sourceDone world := by
  fun_induction cancelThrough count pending with
  | case1 count between source next ih => exact ih
  | case2 count between source next ih => exact ih
  | case3 count source rescue ih => exact ih
  | case4 => rfl

theorem sourceDone_tracing (place : Address) (pending : Pending (StateM σ) ε α) (world : σ)
    (log : List Address) :
    (pending.tracing place).sourceDone (world, log) = (pending.sourceDone world, log) := by
  induction pending with
  | request exchange => rfl
  | ready outcome => rfl
  | thenTry source next ih => exact ih
  | andThen source next ih => exact ih
  | recover source rescue ih => exact ih
  | cancelled source ih => exact ih

theorem isCancelled_tracing (place : Address) (pending : Pending (StateM σ) ε α) :
    (pending.tracing place).isCancelled = pending.isCancelled := by
  induction pending with
  | request exchange => rfl
  | ready outcome => rfl
  | thenTry source next ih => exact ih
  | andThen source next ih => exact ih
  | recover source rescue ih => exact ih
  | cancelled source => rfl

theorem uncancelled_after {m : Type → Type} [Monad m] (first : m Unit) {pending : Pending m ε α}
    (free : pending.Uncancelled) : (pending.after first).Uncancelled := by
  induction pending with
  | request exchange => trivial
  | ready outcome => trivial
  | thenTry source next ih => exact ih free
  | andThen source next ih => exact ⟨ih free.1, free.2⟩
  | recover source rescue ih => exact ih free
  | cancelled source => exact free.elim

theorem Uncancelled.tracing {pending : Pending (StateM σ) ε α} (free : pending.Uncancelled)
    (place : Address) : (pending.tracing place).Uncancelled := by
  induction pending generalizing place with
  | request exchange => trivial
  | ready outcome => trivial
  | thenTry source next ih => exact ih free place
  | andThen source next ih ihNext =>
    refine ⟨ih free.1 place, ?_⟩
    intro value
    exact uncancelled_after _ (ihNext value (free.2 value) _)
  | recover source rescue ih => exact ih free place
  | cancelled source => exact free.elim

/-- Where the flag is set when the first answer comes, the chain ends there. -/
theorem awaitFrom_of_set {own : σ → Bool} {pending : Pending (StateM σ) ε α} {world : σ}
    (set : own (pending.sourceDone world) = true) :
    awaitFrom (look own) pending world = (none, pending.sourceDone world) := by
  induction pending with
  | request exchange =>
    rw [awaitFrom_request]
    exact congrArg (·, _) (if_pos set)
  | ready outcome =>
    rw [awaitFrom_ready]
    exact congrArg (·, _) (if_pos set)
  | thenTry source next ih => rw [awaitFrom_thenTry, ih set, sourceDone]
  | andThen source next ih => rw [awaitFrom_andThen, ih set, sourceDone]
  | recover source rescue ih => rw [awaitFrom_recover, ih set, sourceDone]
  | cancelled source ih => exact ih set

theorem awaitUnless_of_set {isSet : σ → Bool} {pending : Pending (StateM σ) ε α} {world : σ}
    (set : pending.isCancelled = true ∨ isSet (pending.sourceDone world) = true) :
    pending.awaitUnless (look isSet) world = (none, pending.sourceDone world) := by
  rw [awaitUnless]
  split
  case isTrue =>
    have always : (pure true : StateM σ Bool) = look fun _ => true := rfl
    rw [always]
    exact awaitFrom_of_set rfl
  case isFalse unset => exact awaitFrom_of_set (set.resolve_left unset)

/-- Whether awaiting a chain comes to nothing when its first request has run to the end, and no
continuation has started. -/
structure StopsAtRequest (isSet : σ → Bool) (pending : Pending (StateM σ) ε α) (world : σ) :
    Prop where
  silent : pending.awaitUnless (look isSet) world = (none, pending.sourceDone world)
  unreached : (pending.tracing []).awaitUnless (look fun traced => isSet traced.1) (world, []) =
    (none, pending.sourceDone world, [])

theorem stopsAtRequest_of_set {isSet : σ → Bool} {pending : Pending (StateM σ) ε α} {world : σ}
    (set : pending.isCancelled = true ∨ isSet (pending.sourceDone world) = true) :
    pending.StopsAtRequest isSet world where
  silent := awaitUnless_of_set set
  unreached := by
    rw [awaitUnless_of_set (by rwa [isCancelled_tracing, sourceDone_tracing]), sourceDone_tracing]

/-- A chain is the expression over results with cancellation. When nobody cancels it, awaiting
comes to the outcome and the world of the evaluation, and the continuations that start are those
that the evaluation reaches, in its order and none of them twice. When its flag is set by the
time that the first request is answered, whichever of its handles has set it, awaiting comes to
nothing, the request has run to its end, and no continuation has started. -/
theorem await_is_evaluation_unless_cancelled (isSet : σ → Bool)
    (pending : Pending (StateM σ) ε α) (world : σ) :
    (pending.Uncancelled →
      pending.await world = (some (pending.evaluate world).1, (pending.evaluate world).2) ∧
      (pending.tracing []).await (world, []) =
        (some (pending.evaluate world).1, (pending.evaluate world).2, pending.reached world) ∧
      (pending.reached world).Pairwise (· < ·)) ∧
    (pending.isCancelled = true ∨ isSet (pending.sourceDone world) = true →
      pending.StopsAtRequest isSet world) ∧
    ∀ count, (pending.cancelThrough count).StopsAtRequest isSet world ∧
      (pending.cancelThrough count).sourceDone world = pending.sourceDone world := by
  refine ⟨?_, stopsAtRequest_of_set, ?_⟩
  · intro free
    refine ⟨?_, ?_, (ascending_reached pending world).sorted⟩
    · rw [await_of_uncancelled free]
      rfl
    · rw [await_of_uncancelled (free.tracing [])]
      have traced := evaluate_tracing [] pending world []
      simp only [List.nil_append, List.map_id'] at traced
      simp only [Functor.map, StateT.map, bind, pure, traced]
  · intro count
    exact ⟨stopsAtRequest_of_set (.inl (isCancelled_cancelThrough count pending)),
      sourceDone_cancelThrough count pending world⟩

/-- A request of 100 ms whose failure is made up for, with a dependent request and a link inside
it. It comes to its value with three continuations, in order; cancelled at 50 it ends at 100. -/
theorem rescued_request_goes_on :
    let lost : Pending (StateM Nat) Unit Nat := request fun now => (.error (), now + 100)
    let slow (value : Nat) : Pending (StateM Nat) Unit Nat :=
      request fun now => (.ok value, now + 100)
    let pending := (lost.recover fun _ now => (.ok 1, now)).andThen fun value =>
      (slow (value + 1)).map (· * 2)
    pending.Uncancelled ∧ pending.await 0 = (some (.ok 4), 200) ∧
      (pending.tracing []).await (0, []) = (some (.ok 4), 200, [[0], [1], [1, 0]]) ∧
      pending.StopsAtRequest (50 ≤ ·) 0 ∧ pending.sourceDone 0 = 100 := by
  intro lost slow pending
  have free : pending.Uncancelled := ⟨trivial, fun _ => trivial⟩
  obtain ⟨settles, stops, -⟩ := await_is_evaluation_unless_cancelled (50 ≤ ·) pending 0
  obtain ⟨awaited, traced, -⟩ := settles free
  exact ⟨free, awaited, traced, stops (.inr rfl), rfl⟩

end RunBoard.Pending
