import RunBoard.Model.Run

/-!
# Nodes by start time

The nodes of a run are listed with the earliest start first and those without a start last.
Among nodes that started together, and among those that have not started, the listing keeps the
order of the state: picking out any one start time gives the same nodes in the same order before
and after.
-/

namespace RunBoard

/-! ## The order of two nodes -/

namespace NodeState

variable {first second : NodeState}

theorem startsNoLater_iff : first.startsNoLater second = true ↔
    ∀ later, second.startedAt = some later →
      ∃ start, first.startedAt = some start ∧ start.millis ≤ later.millis := by
  unfold startsNoLater
  cases first.startedAt with
  | none => cases second.startedAt <;> simp
  | some start => cases second.startedAt <;> simp

theorem startsNoLater_of_same (same : first.startedAt = second.startedAt) :
    first.startsNoLater second = true := by
  rw [startsNoLater_iff]
  intro later started
  exact ⟨later, same.trans started, Int.le_refl _⟩

theorem startsNoLater_trans (first second third : NodeState)
    (before : first.startsNoLater second = true)
    (after : second.startsNoLater third = true) :
    first.startsNoLater third = true := by
  rw [startsNoLater_iff] at *
  intro latest started
  obtain ⟨middle, begun, middle_le⟩ := after latest started
  obtain ⟨start, found, start_le⟩ := before middle begun
  exact ⟨start, found, Int.le_trans start_le middle_le⟩

theorem startsNoLater_total (first second : NodeState) :
    (first.startsNoLater second || second.startsNoLater first) = true := by
  unfold startsNoLater
  cases first.startedAt with
  | none => cases second.startedAt <;> rfl
  | some start =>
      cases second.startedAt with
      | none => rfl
      | some later => simpa using Int.le_total start.millis later.millis

end NodeState

/-! ## The listing -/

namespace RunState

variable (state : RunState)

theorem nodesByStart_perm : state.nodesByStart.Perm state.nodes :=
  List.mergeSort_perm _ _

theorem pairwise_nodesByStart :
    state.nodesByStart.Pairwise fun first second => first.startsNoLater second = true :=
  List.pairwise_mergeSort NodeState.startsNoLater_trans NodeState.startsNoLater_total _

/-- Nodes with one start time are a sorted part of the list as they stand, so sorting leaves
them in their order. -/
theorem filter_nodesByStart (time : Option Timestamp) :
    state.nodesByStart.filter (fun node => node.startedAt = time) =
      state.nodes.filter fun node => node.startedAt = time := by
  have together : (state.nodes.filter fun node => node.startedAt = time).Pairwise
      fun first second => first.startsNoLater second = true := by
    refine List.pairwise_of_forall_mem_list fun first member second among => ?_
    have started := of_decide_eq_true (List.mem_filter.1 member).2
    have alike := of_decide_eq_true (List.mem_filter.1 among).2
    exact NodeState.startsNoLater_of_same (started.trans alike.symm)
  have kept := List.sublist_mergeSort NodeState.startsNoLater_trans
    NodeState.startsNoLater_total together List.filter_sublist
  have inside := kept.filter fun node => decide (node.startedAt = time)
  rw [List.filter_filter] at inside
  simp only [Bool.and_self] at inside
  exact (inside.eq_of_length (state.nodesByStart_perm.filter _).length_eq.symm).symm

/-- The listing has the nodes of the state, those with a start time before those without one and
by that time among each other. Nodes with the same start time, or with none, come in the order in
which the state has them. -/
theorem nodes_are_listed_by_start :
    state.nodesByStart.Perm state.nodes ∧
    state.nodesByStart.Pairwise (fun first second =>
      first.startedAt = none → second.startedAt = none) ∧
    state.nodesByStart.Pairwise (fun first second => ∀ start later,
      first.startedAt = some start → second.startedAt = some later →
      start.millis ≤ later.millis) ∧
    ∀ time : Option Timestamp,
      state.nodesByStart.filter (fun node => node.startedAt = time) =
        state.nodes.filter fun node => node.startedAt = time := by
  refine ⟨state.nodesByStart_perm, ?unstarted, ?started, state.filter_nodesByStart⟩
  case unstarted =>
    refine state.pairwise_nodesByStart.imp fun {first second} ordered none => ?_
    rw [Option.eq_none_iff_forall_ne_some]
    intro later started
    obtain ⟨start, found, -⟩ := NodeState.startsNoLater_iff.1 ordered later started
    exact Option.some_ne_none start (found.symm.trans none)
  case started =>
    refine state.pairwise_nodesByStart.imp fun {first second} ordered start later begun started => ?_
    obtain ⟨found, same, earlier⟩ := NodeState.startsNoLater_iff.1 ordered later started
    obtain rfl : found = start := Option.some.inj (same.symm.trans begun)
    exact earlier

end RunState

end RunBoard
