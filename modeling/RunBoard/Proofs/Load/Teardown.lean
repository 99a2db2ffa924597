import RunBoard.Proofs.Load.History

/-!
# What a teardown leaves

A teardown keeps the load state for good, whatever is called afterwards. The identity is not
kept with it: a request that comes later is still written down as the one that was made last,
so the container can name an identity whose load state it never shows.
-/

namespace RunBoard.Load

variable {κ α : Type}

namespace Container

/-- The answers to which identities need a reload tell the identity, and nothing else does. -/
theorem needsReload_eq_iff [DecidableEq κ] {first second : Container κ α} :
    (∀ identity, first.needsReload identity = second.needsReload identity) ↔
      first.identity = second.identity := by
  have current (container : Container κ α) (identity : κ) :
      container.needsReload identity = false ↔ container.identity = some identity := by
    simp [needsReload]
  constructor
  · intro same
    refine Option.ext fun identity => ?_
    rw [← current first, ← current second, same]
  · intro same identity
    rw [needsReload, needsReload, same]

end Container

namespace History

theorem requested_append (calls more : List (ContainerCall κ α)) :
    requested (calls ++ more) = requested calls ++ requested more :=
  List.filterMap_append

end History

namespace Ledger

open History

/-- Further calls name the last identity that they ask for, if they ask for one. -/
theorem identity_after_append (calls more : List (ContainerCall κ α)) :
    (after (calls ++ more)).container.identity =
      (requested more).getLast?.or (after calls).container.identity := by
  rw [identity_after, identity_after, requested_append, List.getLast?_append]

theorem tornDown_of_teardown_mem {calls : List (ContainerCall κ α)} (member : .teardown ∈ calls) :
    (after calls).container.tornDown = true :=
  (tornDown_after calls).trans (List.any_eq_true.mpr ⟨.teardown, member, rfl⟩)

/--
After a teardown the load state stays, no result is taken, whichever ticket it comes with, and
a further teardown does nothing. The identity goes on to be the one asked for last, so it and
the answers about reloading stay exactly if nothing else is asked for, or the same in the end.
-/
theorem teardown_keeps_state_but_not_identity [DecidableEq κ]
    (calls more : List (ContainerCall κ α)) :
    let torn := (after (calls ++ [.teardown])).container
    let later := (after (calls ++ .teardown :: more)).container
    later.state = torn.state ∧
    (∀ ticket outcome, later.resolve ticket outcome = (.tornDown, later)) ∧
    later.teardown = later ∧
    torn.identity = (after calls).container.identity ∧
    later.identity = (requested more).getLast?.or torn.identity ∧
    ((later.identity = torn.identity ∧
        ∀ identity, later.needsReload identity = torn.needsReload identity) ↔
      requested more = [] ∨ (requested more).getLast? = torn.identity) := by
  intro torn later
  have split : calls ++ .teardown :: more = (calls ++ [.teardown]) ++ more := by simp
  have down : later.tornDown = true := tornDown_of_teardown_mem (by simp)
  have state : later.state = torn.state := by
    simp only [later, torn, split]
    exact state_after_tornDown (by simp [tornDown_concat, ContainerCall.isTeardown]) more
  have identity : later.identity = (requested more).getLast?.or torn.identity := by
    simp only [later, torn, split]
    exact identity_after_append _ more
  refine ⟨state, fun ticket outcome => Container.resolve_of_tornDown down ticket outcome, ?_, ?_,
    identity, ?_⟩
  · rw [Container.teardown, ← down]
  · exact identity_after_append calls [.teardown]
  · rw [Container.needsReload_eq_iff, and_self_iff, identity, ← List.getLast?_eq_none_iff]
    cases (requested more).getLast? with
    | none => simp
    | some last => simp

/-- Data for `a` is shown when the container is torn down. A request for `b` leaves it there
and has the container name `b`, for which no reload is needed any more. -/
theorem request_after_teardown_renames_shown_data :
    let calls : List (ContainerCall String Nat) := [.request "a", .resolve 0 (.ok 1)]
    let torn := (after (calls ++ [.teardown])).container
    let later := (after (calls ++ [.teardown, .request "b"])).container
    (torn.state = .loaded 1 ∧ torn.identity = some "a" ∧
      torn.needsReload "a" = false ∧ torn.needsReload "b" = true) ∧
    later.state = .loaded 1 ∧ later.identity = some "b" ∧
      later.needsReload "a" = true ∧ later.needsReload "b" = false :=
  ⟨⟨rfl, rfl, rfl, rfl⟩, rfl, rfl, rfl, rfl⟩

end Ledger

end RunBoard.Load
