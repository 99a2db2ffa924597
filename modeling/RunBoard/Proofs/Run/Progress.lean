import Mathlib.Data.List.Nodup
import RunBoard.Model.Run

/-!
# Nodes from poll to poll

A poll of a run is compared with the poll before it. So a node that every poll lists, from
one to a later one, is known not to have gone backwards between the two. A node that some
poll in between leaves out is compared with nothing when it comes back.
-/

namespace RunBoard

/-! ## One state -/

namespace RunState

variable {state previous : RunState}

/-- Whether some node has this name. -/
def Lists (state : RunState) (name : String) : Prop := ∃ node ∈ state.nodes, node.name = name

/-- No two nodes share a name. -/
def Distinct (state : RunState) : Prop := (state.nodes.map NodeState.name).Nodup

instance (state : RunState) (name : String) : Decidable (state.Lists name) :=
  inferInstanceAs (Decidable (∃ node ∈ state.nodes, node.name = name))

instance (state : RunState) : Decidable state.Distinct :=
  inferInstanceAs (Decidable (List.Nodup _))

theorem lists_of_node? {name : String} {node : NodeState} (found : state.node? name = some node) :
    node ∈ state.nodes ∧ node.name = name := by
  have named := List.find?_some found
  exact ⟨List.mem_of_find?_eq_some found, of_decide_eq_true named⟩

/-- Where names are distinct, every node is the one that is found by its name. -/
theorem node?_of_mem (distinct : state.Distinct) {node : NodeState} (member : node ∈ state.nodes) :
    state.node? node.name = some node := by
  cases found : state.node? node.name with
  | none =>
    have unnamed := List.find?_eq_none.1 found node member
    simp at unnamed
  | some other =>
    obtain ⟨among, same⟩ := lists_of_node? found
    rw [List.inj_on_of_nodup_map distinct among member same]

theorem mem_regressionsSince {problem : RunProblem} :
    problem ∈ state.regressionsSince previous ↔
      ∃ before ∈ previous.nodes, ∃ after, state.node? before.name = some after ∧
        after.status.rank < before.status.rank ∧
        problem = .regressed before.name before.status after.status := by
  simp only [regressionsSince, List.mem_filterMap, bind, Option.bind_eq_some_iff,
    NodeState.regression?, Option.ite_none_right_eq_some, Option.some.injEq, eq_comm (a := problem)]

end RunState

/-! ## Two polls -/

namespace Run

variable {previous next : Run}

/-- The comparison with the poll before reports no node that went backwards. -/
def Progresses (previous next : Run) : Prop :=
  ∀ node before after, .regressed node before after ∉ next.problems (some previous.state)

theorem progresses_iff :
    Progresses previous next ↔ next.state.regressionsSince previous.state = [] := by
  unfold Progresses problems RunState.problems
  constructor
  · intro silent
    apply List.eq_nil_iff_forall_not_mem.2
    intro problem member
    obtain ⟨before, -, after, -, -, rfl⟩ := RunState.mem_regressionsSince.1 member
    exact silent _ _ _ (List.mem_append_right _ member)
  · intro nothing node before after member
    dsimp only at member
    rw [nothing, List.append_nil] at member
    obtain ⟨fault, -, other⟩ := List.mem_map.1 member
    cases other

/-- A node that both of two neighbouring polls list has not gone backwards. -/
theorem Progresses.rank_le (progress : Progresses previous next) (distinct : next.state.Distinct)
    {before after : NodeState} (listed : before ∈ previous.state.nodes)
    (still : after ∈ next.state.nodes) (same : after.name = before.name) :
    before.status.rank ≤ after.status.rank := by
  by_contra lower
  have found : next.state.node? before.name = some after := by
    rw [← same]
    exact RunState.node?_of_mem distinct still
  have reported := RunState.mem_regressionsSince.2
    ⟨before, listed, after, found, Nat.lt_of_not_le lower, rfl⟩
  rw [progresses_iff.1 progress] at reported
  contradiction

/-! ## Many polls -/

section Polls

variable {polls : Nat → Run} {count : Nat}
  (distinct : ∀ index ≤ count, (polls index).state.Distinct)
  (progress : ∀ index < count, Progresses (polls index) (polls (index + 1)))

include distinct progress

/-- A node that every poll between two polls lists has not gone backwards from the one to
the other. -/
theorem rank_le_of_listed {first last : Nat} (earlier : first < last) (inside : last ≤ count)
    {before after : NodeState} (start : before ∈ (polls first).state.nodes)
    (finish : after ∈ (polls last).state.nodes) (same : after.name = before.name)
    (listed : ∀ index < last, first < index → (polls index).state.Lists before.name) :
    before.status.rank ≤ after.status.rank := by
  induction earlier generalizing after with
  | refl => exact (progress first inside).rank_le (distinct _ inside) start finish same
  | @step last earlier ih =>
    obtain ⟨middle, member, named⟩ := listed last (Nat.lt_succ_self last) earlier
    have reached : before.status.rank ≤ middle.status.rank :=
      ih (Nat.le_of_succ_le inside) member named fun index within after =>
        listed index (Nat.lt_succ_of_lt within) after
    have step : middle.status.rank ≤ after.status.rank :=
      (progress last inside).rank_le (distinct _ inside) member finish (same.trans named.symm)
    exact Nat.le_trans reached step

/-- Where no two neighbouring polls show a node going backwards, no node does between any two
polls as long as every poll between them lists it. What a later poll has against an earlier
one is therefore always about a node that some poll between them has left out. -/
theorem listed_nodes_never_go_back {first last : Nat} (earlier : first < last)
    (inside : last ≤ count) :
    (∀ before ∈ (polls first).state.nodes, ∀ after ∈ (polls last).state.nodes,
      after.name = before.name →
      (∀ index < last, first < index → (polls index).state.Lists before.name) →
      before.status.rank ≤ after.status.rank) ∧
    ∀ problem ∈ (polls last).state.regressionsSince (polls first).state,
      ∃ node before after, problem = .regressed node before after ∧
        ∃ index < last, first < index ∧ ¬ (polls index).state.Lists node := by
  refine ⟨fun before start after finish same listed =>
    rank_le_of_listed distinct progress earlier inside start finish same listed, ?_⟩
  intro problem member
  obtain ⟨before, start, after, found, lower, rfl⟩ := RunState.mem_regressionsSince.1 member
  obtain ⟨finish, same⟩ := RunState.lists_of_node? found
  refine ⟨_, _, _, rfl, ?_⟩
  by_contra never
  push Not at never
  have := rank_le_of_listed distinct progress earlier inside start finish same never
  omega

end Polls

/-! ## Polls that leave a node out -/

/-- A poll of a running run with these nodes. -/
def pollOf (nodes : List (String × NodeStatus)) : Run where
  id := "r1"
  name := none
  parent := none
  createdAt := .epoch
  owner := .nobody
  pkg := .unnamed
  seed := 0
  tags := []
  notes := none
  params := .empty
  state :=
    { status := .running
      startedAt := some .epoch
      completedAt := none
      progress := 0
      nodes := nodes.map fun node => ⟨node.1, node.2, none, none, none, false⟩ }
  children := []

/-- Three polls: nodes come and go and change their places. -/
def steadyPolls : Nat → Run
  | 0 => pollOf [("load", .success), ("train", .scheduled)]
  | 1 => pollOf [("train", .running), ("load", .success)]
  | _ => pollOf [("train", .failed), ("report", .waiting)]

/-- A node that was scheduled has not gone backwards, wherever it is listed later. -/
theorem trained_node_went_forward :
    (∀ index ≤ 2, (steadyPolls index).state.Distinct) ∧
    (∀ index < 2, Progresses (steadyPolls index) (steadyPolls (index + 1))) ∧
    ∀ after ∈ (steadyPolls 2).state.nodes, after.name = "train" →
      NodeStatus.scheduled.rank ≤ after.status.rank := by
  have distinct : ∀ index ≤ 2, (steadyPolls index).state.Distinct := by decide
  have progress : ∀ index < 2, Progresses (steadyPolls index) (steadyPolls (index + 1)) := by
    simp only [progresses_iff]
    decide
  refine ⟨distinct, progress, ?_⟩
  have forward := listed_nodes_never_go_back distinct progress (show 0 < 2 by decide)
    (Nat.le_refl 2)
  intro after finish same
  exact forward.1 ⟨"train", .scheduled, none, none, none, false⟩ (by decide) after finish same
    (by decide)

/-- Three polls, the second of which lists no node. -/
def gappedPolls : Nat → Run
  | 0 => pollOf [("train", .running)]
  | 1 => pollOf []
  | _ => pollOf [("train", .scheduled)]

/-- A node is running, is left out, and is scheduled when it comes back. No comparison of
neighbours shows that it has gone backwards. -/
theorem node_left_out_goes_back :
    (∀ index ≤ 2, (gappedPolls index).state.Distinct) ∧
    (∀ index < 2, Progresses (gappedPolls index) (gappedPolls (index + 1))) ∧
    (gappedPolls 2).state.regressionsSince (gappedPolls 0).state =
      [.regressed "train" .running .scheduled] := by
  simp only [progresses_iff]
  decide

end Run

end RunBoard
