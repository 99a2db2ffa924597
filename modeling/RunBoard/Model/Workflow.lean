import RunBoard.KeyMap
import RunBoard.Model.Run
import RunBoard.Model.Value

/-!
# Workflows and operators

A workflow is a graph of operator calls. Its adjacency view lists vertices and edges: a
reference input is an edge, every other input an attribute of its vertex.
-/

namespace RunBoard

structure ParamDef where
  name : String
  kind : DataType
  default : Option TypedValue
  isOptional : Bool

/-- An output port of another node. -/
structure Reference where
  node : String
  port : String
  deriving DecidableEq, Repr

/-- Where a node input comes from. -/
inductive Input where
  | value (typed : TypedValue)
  | param (name : String)
  | reference (target : Reference)

structure GraphNode where
  name : String
  op : String
  inputs : KeyMap Input

structure Workflow where
  id : String
  version : String
  name : Option String
  owner : User
  createdAt : Timestamp
  params : List ParamDef
  graph : List GraphNode

structure WorkflowList where
  results : List Workflow
  totalCount : UInt64

structure ArgDef where
  name : String
  kind : DataType
  help : Option String
  isOptional : Bool
  default : Option TypedValue

structure Operator where
  name : String
  category : String
  description : Option String
  inputs : List ArgDef
  outputs : List ArgDef
  deprecation : Option String

structure Vertex where
  name : String
  op : String
  attributes : KeyMap String

structure Edge where
  source : String
  target : String
  port : String
  deriving DecidableEq, Repr

structure Adjacency where
  vertices : List Vertex
  edges : List Edge

namespace GraphNode

/-- Puts an input where it belongs: a reference becomes one more edge, anything else an
attribute. -/
def place (node : GraphNode) (placed : KeyMap String × List Edge) :
    String × Input → KeyMap String × List Edge
  | (port, .value typed) => (placed.1.insert ("in:" ++ port) typed.text, placed.2)
  | (port, .param name) => (placed.1.insert ("in:" ++ port) ("$" ++ name), placed.2)
  | (_, .reference target) =>
      (placed.1, placed.2 ++ [⟨target.node, node.name, target.port⟩])

end GraphNode

namespace Adjacency

def empty : Adjacency := ⟨[], []⟩

/-- The view with one more node, its inputs placed one by one. -/
def add (graph : Adjacency) (node : GraphNode) : Adjacency :=
  let (attributes, edges) := node.inputs.entries.foldl node.place (KeyMap.empty, graph.edges)
  ⟨graph.vertices ++ [⟨node.name, node.op, attributes⟩], edges⟩

end Adjacency

namespace Workflow

def adjacency (workflow : Workflow) : Adjacency := workflow.graph.foldl Adjacency.add .empty

end Workflow

end RunBoard
