import RunBoard.Request.Pending

/-!
# What awaiting comes to

Chains over a state, awaited under a flag that is always set or never.
-/

namespace RunBoard.Pending

variable {σ ε α β : Type}

/-- Where the first part ends without an outcome, and the rest stops there, nothing comes. -/
theorem bind_of_none {first : StateM σ (Option α)} {next : Option α → StateM σ (Option β)}
    {world : σ} (nothing : (first world).1 = none) (stops : next none = pure none) :
    ((first >>= next) world).1 = none := by
  simp only [bind, StateT.bind]
  cases reached : first world with
  | mk settled after =>
    rw [reached] at nothing
    cases nothing
    change (next none after).1 = none
    rw [stops]
    rfl

/-- Under a flag that is set nothing is seen of a chain. -/
theorem awaitFrom_set {α : Type} (pending : Pending (StateM σ) ε α) (world : σ) :
    (awaitFrom (pure true) pending world).1 = none := by
  induction pending generalizing world with
  | request exchange => rfl
  | ready outcome => rfl
  | thenTry source next ih =>
    rw [awaitFrom]
    exact bind_of_none (ih world) rfl
  | andThen source next ih =>
    rw [awaitFrom]
    exact bind_of_none (ih world) rfl
  | recover source rescue ih =>
    rw [awaitFrom]
    exact bind_of_none (ih world) rfl
  | cancelled source ih => exact ih world

/-- A function that is chained to an outcome is applied to it. -/
theorem await_map_eq (f : α → β) (source : Pending (StateM σ) ε α) (world : σ) :
    ((source.map f).await world).1 = (source.await world).1.map (Except.map f) := by
  cases set : source.isCancelled with
  | true =>
    have nothing := awaitFrom_set source world
    rw [await, awaitUnless, if_pos (by simp [map, isCancelled, set]), awaitFrom_set,
      await, awaitUnless, if_pos set, nothing]
    rfl
  | false =>
    rw [await, awaitUnless, if_neg (by simp [map, isCancelled, set]), await, awaitUnless,
      if_neg (by simp [set])]
    simp only [map, awaitFrom, bind, StateT.bind]
    rcases awaitFrom (pure false) source world with ⟨_ | outcome, after⟩
    · rfl
    · cases outcome <;> rfl

theorem await_map {source : Pending (StateM σ) ε α} {world : σ} {outcome : Except ε α}
    (came : (source.await world).1 = some outcome) (f : α → β) :
    ((source.map f).await world).1 = some (outcome.map f) := by
  rw [await_map_eq, came]
  rfl

end RunBoard.Pending
