import Mathlib.Data.List.Forall2
import RunBoard.Proofs.Run.Progress

/-!
# Nodes that share a name

A later state may list the same names in the same order, with no node further back than it
was. A comparison still pairs every node with the first one of its name. So where names are
distinct nothing is reported, and where nodes share a name, those that were ahead of the first
of them may be: a state can be reported to have gone back from itself.
-/

namespace RunBoard

namespace NodeState

/-- The same node by its name, no further back in its lifecycle. -/
def Advances (before after : NodeState) : Prop :=
  after.name = before.name ∧ before.status.rank ≤ after.status.rank

instance (before after : NodeState) : Decidable (before.Advances after) :=
  inferInstanceAs (Decidable (_ ∧ _))

theorem Advances.refl (node : NodeState) : node.Advances node := ⟨rfl, Nat.le_refl _⟩

end NodeState

namespace RunState

/-- The same names in the same order, and at no position a node that is further back. -/
def Advances (previous next : RunState) : Prop :=
  List.Forall₂ NodeState.Advances previous.nodes next.nodes

instance (previous next : RunState) : Decidable (previous.Advances next) :=
  inferInstanceAs (Decidable (List.Forall₂ _ _ _))

theorem Advances.refl (state : RunState) : state.Advances state :=
  List.forall₂_same.2 fun node _ => .refl node

/-- The first nodes of a name are at one position. -/
theorem find?_of_advances {name : String} {first : NodeState} {before after : List NodeState}
    (advances : List.Forall₂ NodeState.Advances before after)
    (found : before.find? (fun node => node.name = name) = some first) :
    ∃ later, after.find? (fun node => node.name = name) = some later ∧ first.Advances later := by
  induction advances with
  | nil => cases found
  | @cons old new before after advance rest ih =>
    by_cases here : old.name = name
    · rw [List.find?_cons_of_pos (by simpa using here)] at found
      cases found
      exact ⟨new, List.find?_cons_of_pos (by simpa using advance.1.trans here), advance⟩
    · rw [List.find?_cons_of_neg (by simpa using here)] at found
      rw [List.find?_cons_of_neg (by simpa using fun same => here (advance.1.symm.trans same))]
      exact ih found

variable {previous next : RunState}

/-- The first node of a name, unless there is none. -/
theorem exists_node?_of_mem {node : NodeState} (listed : node ∈ previous.nodes) :
    ∃ first, previous.node? node.name = some first := by
  apply Option.isSome_iff_exists.1
  rw [node?, List.find?_isSome]
  exact ⟨node, listed, by simp⟩

/-- Where no node has gone back at its position, what is reported is exactly the nodes that were
further than the first node of their name is now, and so further than that one was then: it is
another one. Where names are distinct nothing is reported. -/
theorem reported_nodes_were_ahead_of_namesake (advances : previous.Advances next) :
    (∀ problem, problem ∈ next.regressionsSince previous ↔
      ∃ before ∈ previous.nodes, ∃ first after,
        previous.node? before.name = some first ∧ next.node? before.name = some after ∧
        first.status.rank ≤ after.status.rank ∧ after.status.rank < before.status.rank ∧
        problem = .regressed before.name before.status after.status) ∧
    (previous.Distinct → next.regressionsSince previous = []) := by
  have reported : ∀ problem, problem ∈ next.regressionsSince previous ↔
      ∃ before ∈ previous.nodes, ∃ first after,
        previous.node? before.name = some first ∧ next.node? before.name = some after ∧
        first.status.rank ≤ after.status.rank ∧ after.status.rank < before.status.rank ∧
        problem = .regressed before.name before.status after.status := by
    intro problem
    rw [mem_regressionsSince]
    constructor
    · rintro ⟨before, listed, after, found, lower, same⟩
      obtain ⟨first, known⟩ := exists_node?_of_mem listed
      obtain ⟨later, met, advance⟩ := find?_of_advances advances known
      obtain rfl : later = after := Option.some.inj (met.symm.trans found)
      exact ⟨before, listed, first, later, known, found, advance.2, lower, same⟩
    · rintro ⟨before, listed, first, after, -, found, -, lower, same⟩
      exact ⟨before, listed, after, found, lower, same⟩
  refine ⟨reported, fun distinct => List.eq_nil_iff_forall_not_mem.2 fun problem member => ?_⟩
  obtain ⟨before, listed, first, after, known, -, kept, lower, -⟩ := (reported problem).1 member
  -- With distinct names the first node of a name is the only one.
  obtain rfl : before = first := Option.some.inj ((node?_of_mem distinct listed).symm.trans known)
  exact absurd kept (Nat.not_le_of_lt lower)

/-- A retried node is listed again under its name. All three nodes have gone forward, and the
one that was ahead of its namesake is reported. Without it, nothing is. -/
theorem retried_node_is_reported :
    let previous := (Run.pollOf [("train", .waiting), ("load", .running), ("train", .failed)]).state
    let next := (Run.pollOf [("train", .running), ("load", .success), ("train", .failed)]).state
    let single := (Run.pollOf [("train", .waiting), ("load", .running)]).state
    let after := (Run.pollOf [("train", .running), ("load", .success)]).state
    previous.Advances next ∧ .regressed "train" .failed .running ∈ next.regressionsSince previous ∧
      single.Advances after ∧ single.Distinct ∧ after.regressionsSince single = [] := by
  intro previous next single after
  have advances : previous.Advances next := by decide
  have steady : single.Advances after := by decide
  refine ⟨advances, ?_, steady, by decide, ?_⟩
  · refine ((reported_nodes_were_ahead_of_namesake advances).1 _).2 ?_
    exact ⟨⟨"train", .failed, none, none, none, false⟩, by decide,
      ⟨"train", .waiting, none, none, none, false⟩, ⟨"train", .running, none, none, none, false⟩,
      by decide⟩
  · exact (reported_nodes_were_ahead_of_namesake steady).2 (by decide)

/-- A state that lists a name twice is reported to have gone back from itself. -/
theorem unchanged_state_is_reported :
    let state := (Run.pollOf [("train", .waiting), ("train", .success)]).state
    state.Advances state ∧ state.regressionsSince state = [.regressed "train" .success .waiting] :=
  ⟨.refl _, by decide⟩

end RunState

end RunBoard
