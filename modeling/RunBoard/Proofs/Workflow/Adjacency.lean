import Mathlib.Data.List.Forall2
import Mathlib.Data.String.Basic
import RunBoard.Model.Workflow

/-!
# Where the inputs of a workflow go

The adjacency view is filled one input at a time. Whatever the nodes and ports are called,
each input comes out exactly once: a reference as an edge, in the order of nodes and ports,
anything else as the attribute of its own port on the vertex of its own node.
-/

namespace RunBoard

/-! ## One input -/

namespace Input

/-- The text of an input that is no reference. -/
def attribute? : Input → Option String
  | .value typed => some typed.text
  | .param name => some ("$" ++ name)
  | .reference _ => none

/-- The edge towards a node that a reference makes. -/
def edge? (node : String) : Input → Option Edge
  | .reference target => some ⟨target.node, node, target.port⟩
  | _ => none

/-- The attribute that an input makes at its port. -/
def attributeAt? (entry : String × Input) : Option (String × String) :=
  entry.2.attribute?.map fun text => ("in:" ++ entry.1, text)

section Kinds

variable (node port name : String) (typed : TypedValue) (target : Reference)

@[simp]
theorem attributeAt?_value :
    attributeAt? (port, .value typed) = some ("in:" ++ port, typed.text) := rfl

@[simp]
theorem attributeAt?_param : attributeAt? (port, .param name) = some ("in:" ++ port, "$" ++ name) :=
  rfl

@[simp]
theorem attributeAt?_reference : attributeAt? (port, .reference target) = none := rfl

@[simp]
theorem edge?_value : (Input.value typed).edge? node = none := rfl

@[simp]
theorem edge?_param : (Input.param name).edge? node = none := rfl

@[simp]
theorem edge?_reference :
    (Input.reference target).edge? node = some ⟨target.node, node, target.port⟩ := rfl

end Kinds

theorem attributeAt?_eq_some_iff {entry : String × Input} {key text : String} :
    attributeAt? entry = some (key, text) ↔
      key = "in:" ++ entry.1 ∧ entry.2.attribute? = some text := by
  simp only [attributeAt?, Option.map_eq_some_iff, Prod.mk.injEq]
  constructor
  · rintro ⟨_, shown, rfl, rfl⟩
    exact ⟨rfl, shown⟩
  · rintro ⟨rfl, shown⟩
    exact ⟨text, shown, rfl, rfl⟩

/-- Each of these inputs is an attribute or an edge, and none is both. -/
theorem length_attributes_add_length_edges (node : String) (entries : List (String × Input)) :
    (entries.filterMap attributeAt?).length +
      (entries.filterMap fun entry => entry.2.edge? node).length = entries.length := by
  induction entries with
  | nil => rfl
  | cons entry rest ih =>
      obtain ⟨port, input⟩ := entry
      cases input <;> simp [List.filterMap_cons] <;> omega

/-- The attribute of a port is what the input of that port shows, also when that is nothing. -/
theorem valueAt?_attributes {entries : List (String × Input)}
    (ascending : entries.Pairwise fun first second => first.1 < second.1) (port : String) :
    KeyMap.valueAt? ("in:" ++ port) (entries.filterMap attributeAt?) =
      (KeyMap.valueAt? port entries).bind attribute? := by
  induction entries with
  | nil => rfl
  | cons entry rest ih =>
      obtain ⟨first, input⟩ := entry
      obtain ⟨above, tail⟩ := List.pairwise_cons.mp ascending
      have later := ih tail
      cases shown : input.attribute? with
      | some text =>
          have front : attributeAt? (first, input) = some ("in:" ++ first, text) :=
            attributeAt?_eq_some_iff.mpr ⟨rfl, shown⟩
          rw [List.filterMap_cons_some front]
          by_cases here : first = port
          · simp [KeyMap.valueAt?, here, shown]
          · simp [KeyMap.valueAt?, here, later]
      | none =>
          have front : attributeAt? (first, input) = none := by simp [attributeAt?, shown]
          rw [List.filterMap_cons_none front, later]
          by_cases here : first = port
          · -- The port is taken by a reference, and no later input has the same port.
            rw [KeyMap.valueAt?_eq_none_of_above fun other member => here ▸ above other member]
            simp [KeyMap.valueAt?, here, shown]
          · simp [KeyMap.valueAt?, here]

end Input

/-! ## One node -/

namespace GraphNode

variable (node : GraphNode)

/-- The inputs that are no references, in the order of their ports. -/
def attributes : KeyMap String where
  entries := node.inputs.entries.filterMap Input.attributeAt?
  ascending := by
    refine node.inputs.ascending.filterMap _ ?_
    rintro first second below ⟨_, _⟩ shown ⟨_, _⟩ shown'
    rw [(Input.attributeAt?_eq_some_iff.mp shown).1, (Input.attributeAt?_eq_some_iff.mp shown').1]
    rw [String.lt_iff_toList_lt] at below ⊢
    simpa only [String.toList_append] using List.append_left_lt below

/-- The references among the inputs, in the order of their ports. -/
def edges : List Edge := node.inputs.entries.filterMap fun entry => entry.2.edge? node.name

def vertex : Vertex := ⟨node.name, node.op, node.attributes⟩

/-- Placing inputs one by one collects the attributes and, apart from them, the edges. -/
theorem foldl_place (entries : List (String × Input)) (attributes : KeyMap String)
    (edges : List Edge) :
    entries.foldl node.place (attributes, edges) =
      ((entries.filterMap Input.attributeAt?).foldl
          (fun map entry => map.insert entry.1 entry.2) attributes,
        edges ++ entries.filterMap fun entry => entry.2.edge? node.name) := by
  induction entries generalizing attributes edges with
  | nil => simp
  | cons entry rest ih =>
      obtain ⟨port, input⟩ := entry
      cases input <;> simp [place, ih, List.filterMap_cons]

theorem foldl_place_inputs (edges : List Edge) :
    node.inputs.entries.foldl node.place (KeyMap.empty, edges) =
      (node.attributes, edges ++ node.edges) := by
  have collected := KeyMap.foldl_insert KeyMap.empty node.attributes.entries
    node.attributes.ascending
  rw [foldl_place]
  exact congrArg (·, edges ++ node.edges) (KeyMap.ext collected)

theorem length_attributes_add_length_edges :
    node.attributes.entries.length + node.edges.length = node.inputs.entries.length :=
  Input.length_attributes_add_length_edges node.name node.inputs.entries

end GraphNode

/-! ## All nodes -/

namespace Adjacency

theorem add_eq (graph : Adjacency) (node : GraphNode) :
    graph.add node = ⟨graph.vertices ++ [node.vertex], graph.edges ++ node.edges⟩ := by
  rw [add, node.foldl_place_inputs]
  rfl

theorem foldl_add (graph : Adjacency) (nodes : List GraphNode) :
    nodes.foldl add graph =
      ⟨graph.vertices ++ nodes.map GraphNode.vertex,
        graph.edges ++ nodes.flatMap GraphNode.edges⟩ := by
  induction nodes generalizing graph with
  | nil => simp
  | cons node rest ih => simp [ih, add_eq]

end Adjacency

/-- Whether a vertex stands for a node: it has an attribute for each port whose input is no
reference, with the text of that very input, and no other attribute. -/
structure Vertex.StandsFor (vertex : Vertex) (node : GraphNode) : Prop where
  name : vertex.name = node.name
  op : vertex.op = node.op
  shown : ∀ port,
    vertex.attributes.get? ("in:" ++ port) = (node.inputs.get? port).bind Input.attribute?
  only : ∀ entry ∈ vertex.attributes.entries, ∃ port, entry.1 = "in:" ++ port

theorem GraphNode.vertex_standsFor (node : GraphNode) : node.vertex.StandsFor node where
  name := rfl
  op := rfl
  shown := Input.valueAt?_attributes node.inputs.ascending
  only := by
    rintro ⟨key, text⟩ member
    obtain ⟨⟨port, input⟩, -, shown⟩ := List.mem_filterMap.mp member
    exact ⟨port, (Input.attributeAt?_eq_some_iff.mp shown).1⟩

namespace Workflow

theorem adjacency_eq (workflow : Workflow) :
    workflow.adjacency =
      ⟨workflow.graph.map GraphNode.vertex, workflow.graph.flatMap GraphNode.edges⟩ := by
  simp [adjacency, Adjacency.foldl_add, Adjacency.empty]

/-- The inputs of all nodes are as many as the edges and attributes. -/
theorem length_edges_add_length_attributes (nodes : List GraphNode) :
    (nodes.flatMap GraphNode.edges).length +
        ((nodes.map GraphNode.vertex).flatMap fun vertex => vertex.attributes.entries).length =
      (nodes.flatMap fun node => node.inputs.entries).length := by
  induction nodes with
  | nil => rfl
  | cons node rest ih =>
      have own := node.length_attributes_add_length_edges
      have shown : node.vertex.attributes = node.attributes := rfl
      simp only [List.flatMap_cons, List.length_append, List.map_cons, shown] at ih ⊢
      omega

/--
The vertices stand for the nodes, one for each and in order, and the references of all nodes
are the edges, in the order of nodes and of ports. So there are as many inputs as edges and
attributes together, and every edge leads to a vertex.
-/
theorem adjacency_shows_every_input_once (workflow : Workflow) :
    List.Forall₂ Vertex.StandsFor workflow.adjacency.vertices workflow.graph ∧
    (workflow.adjacency.edges = workflow.graph.flatMap fun node =>
      node.inputs.entries.filterMap fun entry =>
        match entry.2 with
        | .reference target => some ⟨target.node, node.name, target.port⟩
        | _ => none) ∧
    workflow.adjacency.edges.length +
        (workflow.adjacency.vertices.flatMap fun vertex => vertex.attributes.entries).length =
      (workflow.graph.flatMap fun node => node.inputs.entries).length ∧
    ∀ edge ∈ workflow.adjacency.edges,
      ∃ vertex ∈ workflow.adjacency.vertices, vertex.name = edge.target := by
  rw [adjacency_eq]
  refine ⟨?_, ?_, length_edges_add_length_attributes workflow.graph, ?_⟩
  · rw [List.forall₂_map_left_iff, List.forall₂_same]
    exact fun node _ => node.vertex_standsFor
  · refine congrArg (workflow.graph.flatMap ·) (funext fun node => ?_)
    refine congrArg (node.inputs.entries.filterMap ·) (funext fun entry => ?_)
    cases entry.2 <;> rfl
  · intro edge member
    obtain ⟨node, inside, made⟩ := List.mem_flatMap.mp member
    obtain ⟨⟨port, input⟩, -, refers⟩ := List.mem_filterMap.mp made
    refine ⟨node.vertex, List.mem_map_of_mem inside, ?_⟩
    cases input with
    | value typed => cases refers
    | param name => cases refers
    | reference target =>
        cases refers
        rfl

end Workflow

end RunBoard
