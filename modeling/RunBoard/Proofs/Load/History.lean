import Mathlib.Data.List.DropRight
import RunBoard.Load.Container

/-!
# Container histories

Any calls on a fresh container, in any order: requests, results that arrive late, twice or
out of order, and teardowns. What each result is answered, and the load state that is left,
are read off the history alone.
-/

namespace RunBoard.Load

variable {κ α : Type}

/-- A call on a container. A result comes with the ticket of the request of this number,
counted from zero. -/
inductive ContainerCall (κ α : Type) where
  | request (identity : κ)
  | resolve (number : Nat) (outcome : Except Notice α)
  | teardown

namespace ContainerCall

def identity? : ContainerCall κ α → Option κ
  | request identity => some identity
  | _ => none

def isTeardown : ContainerCall κ α → Bool
  | teardown => true
  | _ => false

/-- The result that this call hands over for the request of this number. -/
def outcomeFor? (number : Nat) : ContainerCall κ α → Option (Except Notice α)
  | resolve other outcome => if other = number then some outcome else none
  | _ => none

end ContainerCall

/-- A container and the tickets that it gave out, oldest first. -/
structure Ledger (κ α : Type) where
  container : Container κ α
  tickets : List Ticket

namespace Ledger

/-- Makes a call and says how a result was taken. No result comes for a request that was
never made. -/
def step (ledger : Ledger κ α) : ContainerCall κ α → Option Resolution × Ledger κ α
  | .request identity =>
      let container := ledger.container.request identity
      (none, ⟨container, ledger.tickets ++ [container.ticket]⟩)
  | .resolve number outcome =>
      match ledger.tickets[number]? with
      | some ticket =>
          let (resolution, container) := ledger.container.resolve ticket outcome
          (some resolution, ⟨container, ledger.tickets⟩)
      | none => (none, ledger)
  | .teardown => (none, ⟨ledger.container.teardown, ledger.tickets⟩)

/-- What these calls make of a fresh container. -/
def after (calls : List (ContainerCall κ α)) : Ledger κ α :=
  calls.foldl (fun ledger call => (ledger.step call).2) ⟨.empty, []⟩

theorem after_append (calls more : List (ContainerCall κ α)) :
    after (calls ++ more) = more.foldl (fun ledger call => (ledger.step call).2) (after calls) :=
  List.foldl_append

theorem after_concat (calls : List (ContainerCall κ α)) (call : ContainerCall κ α) :
    after (calls ++ [call]) = ((after calls).step call).2 :=
  after_append calls [call]

end Ledger

/-! ## Reading a history -/

namespace History

/-- The identities that were asked for, in order. -/
def requested (calls : List (ContainerCall κ α)) : List κ :=
  calls.filterMap ContainerCall.identity?

def tornDown (calls : List (ContainerCall κ α)) : Bool := calls.any ContainerCall.isTeardown

/-- The calls before the first teardown. -/
def mounted (calls : List (ContainerCall κ α)) : List (ContainerCall κ α) :=
  calls.takeWhile fun call => !call.isTeardown

/-- The calls since the newest request. -/
def sinceRequest (calls : List (ContainerCall κ α)) : List (ContainerCall κ α) :=
  calls.rtakeWhile fun call => call.identity?.isNone

/-- The results that came with the newest ticket since it was given out, in order. -/
def newestOutcomes (calls : List (ContainerCall κ α)) : List (Except Notice α) :=
  (sinceRequest calls).filterMap (ContainerCall.outcomeFor? ((requested calls).length - 1))

/-- The load state that calls without a teardown lead to. -/
def settledState (calls : List (ContainerCall κ α)) : LoadState α :=
  if (requested calls).isEmpty then .idle
  else
    match (newestOutcomes calls).getLast? with
    | none => .loading
    | some outcome => .ofOutcome outcome

/-- The load state that a history leads to. -/
def state (calls : List (ContainerCall κ α)) : LoadState α := settledState (mounted calls)

theorem requested_concat (calls : List (ContainerCall κ α)) (call : ContainerCall κ α) :
    requested (calls ++ [call]) = requested calls ++ call.identity?.toList := by
  cases call <;> simp [requested, ContainerCall.identity?]

theorem requested_resolve (calls : List (ContainerCall κ α)) (number : Nat)
    (outcome : Except Notice α) :
    requested (calls ++ [.resolve number outcome]) = requested calls := by
  simp [requested_concat, ContainerCall.identity?]

theorem tornDown_concat (calls : List (ContainerCall κ α)) (call : ContainerCall κ α) :
    tornDown (calls ++ [call]) = (tornDown calls || call.isTeardown) := by
  simp [tornDown]

theorem sinceRequest_request (calls : List (ContainerCall κ α)) (identity : κ) :
    sinceRequest (calls ++ [.request identity]) = [] :=
  List.rtakeWhile_concat_neg _ _ _ (by simp [ContainerCall.identity?])

theorem newestOutcomes_request (calls : List (ContainerCall κ α)) (identity : κ) :
    newestOutcomes (calls ++ [.request identity]) = [] := by
  rw [newestOutcomes, sinceRequest_request]
  rfl

theorem newestOutcomes_resolve (calls : List (ContainerCall κ α)) (number : Nat)
    (outcome : Except Notice α) :
    newestOutcomes (calls ++ [.resolve number outcome]) =
      newestOutcomes calls ++
        if number = (requested calls).length - 1 then [outcome] else [] := by
  have kept : sinceRequest (calls ++ [.resolve number outcome]) =
      sinceRequest calls ++ [.resolve number outcome] :=
    List.rtakeWhile_concat_pos _ _ _ rfl
  rw [newestOutcomes, kept, requested_resolve, List.filterMap_append]
  by_cases newest : number = (requested calls).length - 1 <;>
    simp [newestOutcomes, ContainerCall.outcomeFor?, newest]

theorem settledState_request (calls : List (ContainerCall κ α)) (identity : κ) :
    settledState (calls ++ [.request identity]) = .loading := by
  rw [settledState, newestOutcomes_request, requested_concat]
  simp [ContainerCall.identity?]

theorem settledState_resolve (calls : List (ContainerCall κ α)) (number : Nat)
    (outcome : Except Notice α) :
    settledState (calls ++ [.resolve number outcome]) =
      if number + 1 = (requested calls).length then .ofOutcome outcome else settledState calls := by
  rw [settledState, newestOutcomes_resolve, requested_resolve]
  cases asked : requested calls with
  | nil => simp [settledState, asked]
  | cons first rest =>
      by_cases newest : number = rest.length
      · simp [newest]
      · simp [settledState, asked, newest]

theorem mounted_eq_self {calls : List (ContainerCall κ α)} (up : tornDown calls = false) :
    mounted calls = calls := by
  rw [mounted, List.takeWhile_eq_self_iff]
  intro call member
  simpa using List.any_eq_false.mp up call member

/-- A history with a teardown is the part before the first one, that teardown, and a rest. -/
theorem split_at_teardown {calls : List (ContainerCall κ α)} (down : tornDown calls = true) :
    ∃ later, calls = mounted calls ++ .teardown :: later := by
  induction calls with
  | nil => cases down
  | cons call rest ih =>
      cases call with
      | teardown => exact ⟨rest, rfl⟩
      | request identity =>
          obtain ⟨later, split⟩ := ih down
          exact ⟨later, congrArg (List.cons _) split⟩
      | resolve number outcome =>
          obtain ⟨later, split⟩ := ih down
          exact ⟨later, congrArg (List.cons _) split⟩

theorem tornDown_mounted (calls : List (ContainerCall κ α)) :
    tornDown (mounted calls) = false := by
  refine List.any_eq_false.mpr fun call member => ?_
  simpa using List.mem_takeWhile_imp member

end History

namespace Ledger

open History

/-- A result changes at most the load state. -/
theorem step_resolve (ledger : Ledger κ α) (number : Nat) (outcome : Except Notice α) :
    ∃ state, (ledger.step (.resolve number outcome)).2 =
      ⟨{ ledger.container with state := state }, ledger.tickets⟩ := by
  cases issued : ledger.tickets[number]? with
  | none => exact ⟨ledger.container.state, by simp only [step, issued]⟩
  | some ticket =>
      refine ⟨(ledger.container.resolve ticket outcome).2.state, ?_⟩
      simp only [step, issued]
      rw [← Container.resolve_frame]

theorem tornDown_after (calls : List (ContainerCall κ α)) :
    (after calls).container.tornDown = tornDown calls := by
  induction calls using List.reverseRecOn with
  | nil => rfl
  | append_singleton calls call ih =>
      rw [after_concat, tornDown_concat, ← ih]
      cases call with
      | request identity => simp [step, Container.tornDown_request, ContainerCall.isTeardown]
      | resolve number outcome =>
          obtain ⟨state, same⟩ := (after calls).step_resolve number outcome
          simp [same, ContainerCall.isTeardown]
      | teardown => simp [step, Container.teardown, ContainerCall.isTeardown]

theorem identity_after (calls : List (ContainerCall κ α)) :
    (after calls).container.identity = (requested calls).getLast? := by
  induction calls using List.reverseRecOn with
  | nil => rfl
  | append_singleton calls call ih =>
      rw [after_concat, requested_concat]
      cases call with
      | request identity => simp [step, Container.request, ContainerCall.identity?]
      | resolve number outcome =>
          obtain ⟨state, same⟩ := (after calls).step_resolve number outcome
          simp [same, ih, ContainerCall.identity?]
      | teardown => simp [step, Container.teardown, ih, ContainerCall.identity?]

/-- The ticket of each request is its number, counted from one, as long as 64 bits hold the
count of requests. -/
theorem tickets_after (calls : List (ContainerCall κ α))
    (few : (requested calls).length < UInt64.size) :
    (after calls).container.generation = (requested calls).length ∧
      (after calls).tickets = (List.range (requested calls).length).map fun number => ⟨number + 1⟩ := by
  induction calls using List.reverseRecOn with
  | nil => exact ⟨rfl, rfl⟩
  | append_singleton calls call ih =>
      rw [requested_concat] at few ⊢
      rw [after_concat]
      cases call with
      | request identity =>
          simp only [ContainerCall.identity?, Option.toList_some, List.length_append,
            List.length_singleton] at few ⊢
          obtain ⟨count, tickets⟩ := ih (Nat.lt_of_succ_lt few)
          have next : ((after calls).container.request identity).generation =
              (requested calls).length + 1 := by
            rw [Container.request, count, Nat.mod_eq_of_lt few]
          exact ⟨next, by simp [step, Container.ticket, next, tickets, List.range_succ]⟩
      | resolve number outcome =>
          obtain ⟨state, same⟩ := (after calls).step_resolve number outcome
          simpa [same, ContainerCall.identity?] using
            ih (by simpa [ContainerCall.identity?] using few)
      | teardown =>
          simpa [step, Container.teardown, ContainerCall.identity?] using
            ih (by simpa [ContainerCall.identity?] using few)

theorem ticket_after {calls : List (ContainerCall κ α)}
    (few : (requested calls).length < UInt64.size) :
    (after calls).container.ticket = ⟨(requested calls).length⟩ :=
  congrArg Ticket.mk (tickets_after calls few).1

/-- A result for a request that was made comes with the ticket of that request. -/
theorem step_resolve_known {calls : List (ContainerCall κ α)}
    (few : (requested calls).length < UInt64.size) {number : Nat}
    (known : number < (requested calls).length) (outcome : Except Notice α) :
    (after calls).step (.resolve number outcome) =
      (some ((after calls).container.resolve ⟨number + 1⟩ outcome).1,
        ⟨((after calls).container.resolve ⟨number + 1⟩ outcome).2, (after calls).tickets⟩) := by
  have issued : (after calls).tickets[number]? = some ⟨number + 1⟩ := by
    simp [(tickets_after calls few).2, known]
  simp only [step, issued]

/-- A result for a request that was never made is not heard. -/
theorem step_resolve_unknown {calls : List (ContainerCall κ α)}
    (few : (requested calls).length < UInt64.size) {number : Nat}
    (unknown : (requested calls).length ≤ number) (outcome : Except Notice α) :
    (after calls).step (.resolve number outcome) = (none, after calls) := by
  have absent : (after calls).tickets[number]? = none := by
    simp [(tickets_after calls few).2, unknown]
  simp only [step, absent]

/-! ## What a history leads to -/

theorem resolution_after {calls : List (ContainerCall κ α)}
    (few : (requested calls).length < UInt64.size) {number : Nat}
    (known : number < (requested calls).length) (outcome : Except Notice α) :
    ((after calls).step (.resolve number outcome)).1 =
      some (if tornDown calls then .tornDown
        else if number + 1 = (requested calls).length then .applied else .stale) := by
  rw [step_resolve_known few known, ← tornDown_after]
  cases down : (after calls).container.tornDown with
  | true => simp [Container.resolve_of_tornDown down]
  | false =>
      by_cases newest : number + 1 = (requested calls).length
      · rw [newest, ← ticket_after few, Container.resolve_newest down]
        simp
      · rw [Container.resolve_of_stale down (by simpa [ticket_after few] using newest)]
        simp [newest]

/-- A result that is not taken leaves everything as it was. -/
theorem step_of_not_applied {ledger : Ledger κ α} {call : ContainerCall κ α}
    (refused : (ledger.step call).1 = some .stale ∨ (ledger.step call).1 = some .tornDown) :
    (ledger.step call).2 = ledger := by
  cases call with
  | request identity => simp [step] at refused
  | teardown => simp [step] at refused
  | resolve number outcome =>
      cases issued : ledger.tickets[number]? with
      | none => simp only [step, issued]
      | some ticket =>
          simp only [step, issued, Option.some.injEq] at refused ⊢
          unfold Container.resolve at refused ⊢
          split at refused
          · next down => simp [down]
          · next up =>
              split at refused
              · next other => simp [up, other]
              · simp at refused

/-- After a teardown no call changes the load state, and the container stays torn down. -/
theorem step_of_tornDown {ledger : Ledger κ α} (down : ledger.container.tornDown = true)
    (call : ContainerCall κ α) :
    (ledger.step call).2.container.tornDown = true ∧
      (ledger.step call).2.container.state = ledger.container.state := by
  cases call with
  | request identity => simp [step, Container.request, down]
  | teardown => exact ⟨rfl, rfl⟩
  | resolve number outcome =>
      cases issued : ledger.tickets[number]? with
      | none => simp [step, issued, down]
      | some ticket => simp [step, issued, Container.resolve_of_tornDown down, down]

theorem state_after_tornDown {calls : List (ContainerCall κ α)} (down : tornDown calls = true)
    (more : List (ContainerCall κ α)) :
    (after (calls ++ more)).container.state = (after calls).container.state := by
  rw [after_append]
  rw [← tornDown_after] at down
  induction more generalizing calls with
  | nil => rfl
  | cons call rest ih =>
      obtain ⟨still, kept⟩ := step_of_tornDown down call
      rw [← after_concat] at still kept
      rw [List.foldl_cons, ← after_concat, ih still, kept]

/-- While the container is up, a result sets the load state if it comes for the newest
request. -/
theorem state_step_resolve {calls : List (ContainerCall κ α)}
    (few : (requested calls).length < UInt64.size) (up : tornDown calls = false) (number : Nat)
    (outcome : Except Notice α) :
    ((after calls).step (.resolve number outcome)).2.container.state =
      if number + 1 = (requested calls).length then .ofOutcome outcome
      else (after calls).container.state := by
  have down := (tornDown_after calls).trans up
  by_cases known : number < (requested calls).length
  · rw [step_resolve_known few known]
    by_cases newest : number + 1 = (requested calls).length
    · rw [if_pos newest, newest, ← ticket_after few, Container.resolve_newest down]
    · rw [if_neg newest,
        Container.resolve_of_stale down (by simpa [ticket_after few] using newest)]
  · rw [step_resolve_unknown few (Nat.le_of_not_lt known), if_neg (by omega)]

theorem state_mounted {calls : List (ContainerCall κ α)}
    (few : (requested calls).length < UInt64.size) (up : tornDown calls = false) :
    (after calls).container.state = settledState calls := by
  induction calls using List.reverseRecOn with
  | nil => rfl
  | append_singleton calls call ih =>
      rw [tornDown_concat, Bool.or_eq_false_iff] at up
      rw [after_concat]
      cases call with
      | teardown => cases up.2
      | request identity =>
          have down := (tornDown_after calls).trans up.1
          rw [settledState_request]
          simp [step, Container.request, down]
      | resolve number outcome =>
          rw [requested_resolve] at few
          rw [state_step_resolve few up.1, settledState_resolve, ih few up.1]

theorem requested_mounted_le (calls : List (ContainerCall κ α)) :
    (requested (mounted calls)).length ≤ (requested calls).length :=
  ((List.takeWhile_prefix _).sublist.filterMap _).length_le

/-- The load state is decided by what happened before the first teardown. -/
theorem state_after {calls : List (ContainerCall κ α)}
    (few : (requested calls).length < UInt64.size) :
    (after calls).container.state = state calls := by
  have before := state_mounted (Nat.lt_of_le_of_lt (requested_mounted_le calls) few)
    (tornDown_mounted calls)
  cases down : tornDown calls with
  | false =>
      rw [mounted_eq_self down] at before
      rw [before, state, mounted_eq_self down]
  | true =>
      obtain ⟨later, split⟩ := split_at_teardown down
      have torn : tornDown (mounted calls ++ [.teardown]) = true := by
        simp [tornDown_concat, ContainerCall.isTeardown]
      have frozen := state_after_tornDown torn later
      rw [List.append_assoc, List.singleton_append, ← split, after_concat] at frozen
      exact frozen.trans before

/-- Data that is shown while the container is up was handed over with the newest ticket. -/
theorem outcome_of_loaded {calls : List (ContainerCall κ α)} {data : α}
    (loaded : settledState calls = .loaded data) :
    (requested calls) ≠ [] ∧
      .resolve ((requested calls).length - 1) (.ok data) ∈ sinceRequest calls := by
  unfold settledState at loaded
  split at loaded
  · cases loaded
  · next some_request =>
      refine ⟨by simpa using some_request, ?_⟩
      cases last : (newestOutcomes calls).getLast? with
      | none => rw [last] at loaded; cases loaded
      | some outcome =>
          rw [last] at loaded
          cases outcome with
          | error notice => cases loaded
          | ok value =>
              cases loaded
              obtain ⟨call, member, handed⟩ := List.mem_filterMap.mp (List.mem_of_getLast? last)
              cases call with
              | request identity => cases handed
              | teardown => cases handed
              | resolve number outcome =>
                  simp only [ContainerCall.outcomeFor?, Option.ite_none_right_eq_some,
                    Option.some.injEq] at handed
                  obtain ⟨newest, value_eq⟩ := handed
                  rwa [newest, value_eq] at member

/--
The history alone decides how a result is taken and which load state is left. Data that is
shown while the container is up answers the newest request, whose identity the container
names; a result that is turned away and everything after a teardown leave the state as it
was.
-/
theorem history_decides_container (calls : List (ContainerCall κ α))
    (few : (requested calls).length < UInt64.size) :
    (∀ number outcome, number < (requested calls).length →
      ((after calls).step (.resolve number outcome)).1 =
        some (if tornDown calls then .tornDown
          else if number + 1 = (requested calls).length then .applied else .stale)) ∧
    (after calls).container.state = state calls ∧
    (tornDown calls = false → ∀ data, (after calls).container.state = .loaded data →
      ∃ newest identity, newest + 1 = (requested calls).length ∧
        (requested calls)[newest]? = some identity ∧
        (after calls).container.identity = some identity ∧
        .resolve newest (.ok data) ∈ sinceRequest calls) ∧
    (∀ call, ((after calls).step call).1 = some .stale ∨
        ((after calls).step call).1 = some .tornDown →
      ((after calls).step call).2 = after calls) ∧
    (tornDown calls = true → ∀ more,
      (after (calls ++ more)).container.state = (after calls).container.state) := by
  refine ⟨fun number outcome known => resolution_after few known outcome, state_after few,
    ?_, fun _ => step_of_not_applied, state_after_tornDown⟩
  intro up data loaded
  obtain ⟨some_request, handed⟩ := outcome_of_loaded ((state_mounted few up).symm.trans loaded)
  have positive := List.length_pos_iff.mpr some_request
  obtain ⟨identity, last⟩ : ∃ identity, (requested calls).getLast? = some identity :=
    ⟨_, List.getLast?_eq_some_getLast some_request⟩
  refine ⟨(requested calls).length - 1, identity, by omega, ?_, ?_, handed⟩
  · rwa [← List.getLast?_eq_getElem?]
  · rw [identity_after, last]

/-- The answer to an older request comes late, once before and once after the newer one. -/
theorem late_answer_is_stale :
    let calls : List (ContainerCall Nat String) :=
      [.request 42, .request 43, .resolve 0 (.ok "run 42"), .resolve 1 (.ok "run 43")]
    (requested calls).length < UInt64.size ∧
      (after calls).container.state = .loaded "run 43" ∧
      ((after calls).step (.resolve 0 (.ok "run 42"))).1 = some .stale := by
  intro calls
  have few : (requested calls).length < UInt64.size := by decide
  obtain ⟨resolutions, settled, _⟩ := history_decides_container calls few
  exact ⟨few, settled.trans rfl, (resolutions 0 (.ok "run 42") (by decide)).trans rfl⟩

end Ledger

end RunBoard.Load
