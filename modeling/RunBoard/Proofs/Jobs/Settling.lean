import RunBoard.Proofs.Jobs.Calls

/-!
# When every list call has finished

Calls that have numbers of their own are told apart, so each of them waits from its start
until an outcome arrives for it. The list call that started last has therefore had its
outcome once no list call waits, and the list shows the last outcome that has arrived since
for its page and selector.
-/

namespace RunBoard.Jobs

/-- The number and the call that an event starts. -/
def CallEvent.started? : CallEvent → Option (Nat × Call)
  | start number call => some (number, call)
  | _ => none

/-- Whether every call has a number of its own. -/
def Numbered (events : List CallEvent) : Prop :=
  ((events.filterMap CallEvent.started?).map Prod.fst).Nodup

instance (events : List CallEvent) : Decidable (Numbered events) :=
  inferInstanceAs (Decidable (List.Nodup _))

theorem Numbered.left {first second : List CallEvent} (numbered : Numbered (first ++ second)) :
    Numbered first := by
  unfold Numbered at numbered
  rw [List.filterMap_append, List.map_append] at numbered
  exact (List.nodup_append.mp numbered).1

namespace ListState

theorem status_answered (list : ListState) (came : Came JobList) :
    (list.answered came).status = .loaded ∨ (list.answered came).status = .failed := by
  match came with
  | some (.ok response) => exact .inl rfl
  | some (.error error) => exact .inr rfl
  | none => exact .inr rfl

theorem loaded_answered_iff (list : ListState) (came : Came JobList) :
    (list.answered came).status = .loaded ↔ ∃ response, came = some (.ok response) := by
  match came with
  | some (.ok response) => exact ⟨fun _ => ⟨response, rfl⟩, fun _ => rfl⟩
  | some (.error error) => exact ⟨nofun, nofun⟩
  | none => exact ⟨nofun, nofun⟩

end ListState

namespace Session

theorem after_append (session : Session) (first second : List CallEvent) :
    session.after (first ++ second) = (session.after first).after second :=
  List.foldl_append

/-! ## Calls that wait -/

/-- Whether no two calls that wait have one number. -/
def Distinct (session : Session) : Prop := (session.waiting.map Prod.fst).Nodup

theorem waiting_sublist (store : Store) (events : List CallEvent) :
    ((new store).after events).waiting.Sublist (events.filterMap CallEvent.started?) := by
  induction events using List.reverseRecOn with
  | nil => exact List.Sublist.refl _
  | append_singleton events event ih =>
      rw [after_concat, List.filterMap_append]
      cases event with
      | start number call =>
          have added := ih.append (List.Sublist.refl [(number, call)])
          cases call with
          | list key => exact added
          | job name =>
              simp only [step]
              split
              · exact ih.trans (List.sublist_append_left _ _)
              · exact added
      | finishList number came =>
          simp only [step]
          split
          · exact (List.filter_sublist.trans ih).trans (List.sublist_append_left _ _)
          · exact ih.trans (List.sublist_append_left _ _)
      | finishJob number came =>
          simp only [step]
          split
          · exact (List.filter_sublist.trans ih).trans (List.sublist_append_left _ _)
          · exact ih.trans (List.sublist_append_left _ _)

theorem distinct_after (store : Store) {events : List CallEvent} (numbered : Numbered events) :
    ((new store).after events).Distinct :=
  numbered.sublist ((waiting_sublist store events).map Prod.fst)

/-- Among calls with distinct numbers each is found by its own. -/
theorem call?_of_mem {session : Session} (distinct : session.Distinct) {number : Nat} {call : Call}
    (present : (number, call) ∈ session.waiting) : session.call? number = some call := by
  obtain ⟨front, back, split⟩ := List.append_of_mem present
  refine List.lookup_eq_some_iff.mpr ⟨front, back, split, fun entry before => ?_⟩
  rw [Distinct, split, List.map_append] at distinct
  have apart := (List.nodup_append.mp distinct).2.2 entry.1 (List.mem_map_of_mem before) number
    List.mem_cons_self
  simpa using apart.symm

/-- A call waits on until an outcome arrives for it. -/
theorem waits_on {session : Session} (distinct : session.Distinct) {number : Nat} {call : Call}
    (present : (number, call) ∈ session.waiting) (event : CallEvent) :
    (number, call) ∈ (session.step event).2.waiting ∨
      (∃ key came, call = .list key ∧ event = .finishList number came) ∨
      ∃ name came, call = .job name ∧ event = .finishJob number came := by
  have found := call?_of_mem distinct present
  cases event with
  | start other asked =>
      left
      cases asked with
      | list key => exact List.mem_append_left _ present
      | job name =>
          simp only [step]
          split
          · exact present
          · exact List.mem_append_left _ present
  | finishList other came =>
      by_cases same : other = number
      · subst same
        cases call with
        | list key => exact .inr (.inl ⟨key, came, rfl, rfl⟩)
        | job name =>
            left
            simpa only [step, found] using present
      · left
        simp only [step]
        split
        · exact List.mem_filter.mpr ⟨present, by simpa using Ne.symm same⟩
        · exact present
  | finishJob other came =>
      by_cases same : other = number
      · subst same
        cases call with
        | job name => exact .inr (.inr ⟨name, came, rfl, rfl⟩)
        | list key =>
            left
            simpa only [step, found] using present
      · left
        simp only [step]
        split
        · exact List.mem_filter.mpr ⟨present, by simpa using Ne.symm same⟩
        · exact present

/-! ## Answers for one list -/

/-- The outcome for this page and selector that an event brings. -/
def answer? (session : Session) (key : ListKey) : CallEvent → Option (Came JobList)
  | .finishList number came =>
      if session.call? number = some (.list key) then some came else none
  | _ => none

/-- The outcomes for this page and selector, in the order in which they arrive. -/
def answers (session : Session) (key : ListKey) : List CallEvent → List (Came JobList)
  | [] => []
  | event :: later => (session.answer? key event).toList ++ (session.step event).2.answers key later

theorem answers_concat (session : Session) (key : ListKey) (events : List CallEvent)
    (event : CallEvent) :
    session.answers key (events ++ [event]) =
      session.answers key events ++ ((session.after events).answer? key event).toList := by
  induction events generalizing session with
  | nil => simp [answers, after]
  | cons first rest ih =>
      rw [List.cons_append, answers, answers, ih, List.append_assoc]
      rfl

/-- While no list call starts, the list is changed by the outcomes for its own page and
selector and by nothing else. -/
theorem list_step_answer (session : Session) {event : CallEvent}
    (quiet : event.startedList? = none) :
    (session.step event).2.store.list =
      (session.answer? session.store.list.key event).toList.foldl ListState.answered
        session.store.list := by
  rw [list_step]
  cases event with
  | start number call =>
      cases call with
      | list key => cases quiet
      | job name =>
          cases cached : session.store.isCachedTerminal name <;>
            simp [action?, cached, answer?, ListState.after]
  | finishList number came =>
      cases waiting : session.call? number with
      | none => simp [action?, answer?, waiting]
      | some call =>
          cases call with
          | job name => simp [action?, answer?, waiting]
          | list key =>
              by_cases current : key = session.store.list.key
              · simp [action?, answer?, waiting, current, ListState.after_ofList_self]
              · simp [action?, answer?, waiting, current, ListState.after_ofList_of_ne current]
  | finishJob number came =>
      cases waiting : session.call? number with
      | none => simp [action?, answer?, waiting]
      | some call =>
          cases call with
          | job name => simp [action?, answer?, waiting, ListState.after_ofJob]
          | list key => simp [action?, answer?, waiting]

theorem key_foldl_answered (list : ListState) (outcomes : List (Came JobList)) :
    (outcomes.foldl ListState.answered list).key = list.key := by
  induction outcomes generalizing list with
  | nil => rfl
  | cons came rest ih => exact (ih (list.answered came)).trans (list.key_answered came)

/-- Until another list call starts, the list is what the outcomes for its page and selector
make of it one after the other. -/
theorem list_after_quiet (session : Session) {later : List CallEvent}
    (quiet : later.filterMap CallEvent.startedList? = []) :
    (session.after later).store.list =
      (session.answers session.store.list.key later).foldl ListState.answered
        session.store.list := by
  induction later using List.reverseRecOn with
  | nil => rfl
  | append_singleton part event ih =>
      rw [List.filterMap_append, List.append_eq_nil_iff] at quiet
      have quietEvent : event.startedList? = none := by simpa using quiet.2
      have before := ih quiet.1
      have key : (session.after part).store.list.key = session.store.list.key := by
        rw [before, key_foldl_answered]
      rw [after_concat, list_step_answer _ quietEvent, key, answers_concat, List.foldl_append,
        before]

/-- A list call that waits has had an outcome when it waits no longer. -/
theorem waits_or_answered {store : Store} {events later : List CallEvent}
    (numbered : Numbered (events ++ later)) {number : Nat} {key : ListKey}
    (waiting : (number, .list key) ∈ ((new store).after events).waiting) :
    (number, .list key) ∈ ((new store).after (events ++ later)).waiting ∨
      ((new store).after events).answers key later ≠ [] := by
  induction later using List.reverseRecOn with
  | nil => exact .inl (by simpa using waiting)
  | append_singleton part event ih =>
      rw [← List.append_assoc] at numbered ⊢
      have distinct := distinct_after store numbered.left
      rw [after_concat, answers_concat, ← after_append]
      rcases ih numbered.left with waits | answered
      · rcases waits_on distinct waits event with still | ⟨asked, came, same, rfl⟩ | ⟨_, _, other, _⟩
        · exact .inl still
        · right
          simp [answer?, call?_of_mem distinct waits]
        · cases other
      · exact .inr (List.append_ne_nil_of_left_ne_nil answered _)

/-- Events in which a list call starts, cut at the last one that does. -/
theorem exists_last_list_start {events : List CallEvent}
    (asked : events.filterMap CallEvent.startedList? ≠ []) :
    ∃ before number key later, events = before ++ .start number (.list key) :: later ∧
      later.filterMap CallEvent.startedList? = [] := by
  induction events using List.reverseRecOn with
  | nil => exact absurd rfl asked
  | append_singleton events event ih =>
      rw [List.filterMap_append] at asked
      cases started : event.startedList? with
      | some call =>
          cases event with
          | start number call =>
              cases call with
              | list key => exact ⟨events, number, key, [], rfl, rfl⟩
              | job name => cases started
          | finishList | finishJob => cases started
      | none =>
          obtain ⟨before, number, key, later, split, quiet⟩ :=
            ih (by simpa [started] using asked)
          refine ⟨before, number, key, later ++ [event], by simp [split], ?_⟩
          simp [List.filterMap_append, quiet, started]

/--
Once at least one list call has started and every list call has finished, the list shows the
last outcome for the page and selector of the list call that started last, among those that
have arrived since its start. There is one, so the list is neither waiting nor untouched: it
is loaded with all that this answer brought, or failed with it.
-/
theorem settled_list_shows_last_answer (store : Store) (events : List CallEvent)
    (numbered : Numbered events) (asked : events.filterMap CallEvent.startedList? ≠ [])
    (settled : ∀ number key, (number, .list key) ∉ ((new store).after events).waiting) :
    ∃ before number key later came,
      events = before ++ .start number (.list key) :: later ∧
      later.filterMap CallEvent.startedList? = [] ∧
      (((new store).after (before ++ [.start number (.list key)])).answers key later).getLast? =
        some came ∧
      let list := ((new store).after events).store.list
      list.key = key ∧
      (list.status = .loaded ∨ list.status = .failed) ∧
      (list.status = .loaded ↔ ∃ response, came = some (.ok response)) ∧
      ∀ response, came = some (.ok response) →
        list.names = response.jobs.map Job.name ∧ list.totalCount = response.totalCount := by
  obtain ⟨before, number, key, later, rfl, quiet⟩ := exists_last_list_start asked
  have cut : before ++ CallEvent.start number (.list key) :: later =
      before ++ [.start number (.list key)] ++ later := by simp
  rw [cut] at numbered settled
  have begun : (number, .list key) ∈
      ((new store).after (before ++ [.start number (.list key)])).waiting := by
    rw [after_concat]
    exact List.mem_append_right _ (List.mem_singleton.mpr rfl)
  have shown : ((new store).after (before ++ [.start number (.list key)])).store.list.key = key := by
    rw [after_concat]
    rfl
  have answered := (waits_or_answered numbered begun).resolve_left (settled number key)
  obtain ⟨earlier, came, split⟩ : ∃ earlier came,
      ((new store).after (before ++ [.start number (.list key)])).answers key later =
        earlier ++ [came] :=
    ⟨_, _, (List.dropLast_concat_getLast answered).symm⟩
  have list := list_after_quiet ((new store).after (before ++ [.start number (.list key)])) quiet
  rw [shown, split, List.foldl_append, ← after_append, ← cut] at list
  refine ⟨before, number, key, later, came, rfl, quiet, by simp [split], ?_⟩
  simp only [list, List.foldl_cons, List.foldl_nil]
  refine ⟨?_, ListState.status_answered .., ListState.loaded_answered_iff .., ?_⟩
  · rw [ListState.key_answered, key_foldl_answered, shown]
  · rintro response rfl
    exact ⟨rfl, rfl⟩

/-- The first page is asked for again after the second one, and the answers arrive crosswise:
the older call for the first page is the last to be answered, and its answer is shown. -/
theorem crossed_answers_settle :
    let events : List CallEvent :=
      [.start 0 (.list ⟨1, none⟩), .start 1 (.list ⟨2, none⟩), .start 2 (.list ⟨1, none⟩),
        .finishList 2 none, .finishList 1 (some (.ok ⟨[], 31⟩)),
        .finishList 0 (some (.ok ⟨[], 7⟩))]
    let list := ((new .empty).after events).store.list
    list = ⟨.loaded, 7, ⟨1, none⟩, []⟩ ∧
    ∃ before number later response,
      events = before ++ .start number (.list ⟨1, none⟩) :: later ∧
      (((new .empty).after (before ++ [.start number (.list ⟨1, none⟩)])).answers ⟨1, none⟩
        later).getLast? = some (some (.ok response)) ∧
      response.totalCount = 7 := by
  intro events list
  have shown : list = ⟨.loaded, 7, ⟨1, none⟩, []⟩ := by decide
  have finished : ((new .empty).after events).waiting = [] := by decide
  obtain ⟨before, number, key, later, came, split, -, last, same, -, loaded, brought⟩ :=
    settled_list_shows_last_answer .empty events (by decide) (by decide) (by simp [finished])
  change list.key = key at same
  obtain rfl : (⟨1, none⟩ : ListKey) = key := by rw [← same, shown]
  obtain ⟨response, rfl⟩ := loaded.mp (congrArg ListState.status shown)
  have total : list.totalCount = response.totalCount := (brought response rfl).2
  exact ⟨shown, before, number, later, response, split, last, by rw [← total, shown]⟩

end Session

end RunBoard.Jobs
