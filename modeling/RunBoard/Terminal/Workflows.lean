import RunBoard.Model.Workflow
import RunBoard.Terminal.Runs

/-!
# Workflows and operators on the terminal
-/

namespace RunBoard.Terminal

def workflowSummary (viewer : Viewer) (workflow : Workflow) : String :=
  fieldLine "Workflow" (orPlaceholder workflow.name) ++ fieldLine "Id" workflow.id ++
    fieldLine "Version" workflow.version ++ fieldLine "Owner" workflow.owner.text ++
    fieldLine "Created" (viewer.timeText (some workflow.createdAt))

/-- The default of a parameter, or whether it can do without. -/
def defaultText (param : ParamDef) : String :=
  match param.default with
  | some value => value.text
  | none => if param.isOptional then "(optional)" else placeholder

def workflowParamsTable (workflow : Workflow) : Table :=
  ⟨["Parameter", "Type", "Default"],
    workflow.params.map fun param => [param.name, param.kind.text, defaultText param]⟩

def workflowRow (viewer : Viewer) (workflow : Workflow) : List String :=
  [workflow.id, orPlaceholder workflow.name, workflow.version, workflow.owner.name,
    viewer.timeText (some workflow.createdAt), toString workflow.graph.length]

def workflowsTable (viewer : Viewer) (workflows : List Workflow) : Table :=
  ⟨["Id", "Name", "Version", "Owner", "Created", "Nodes"],
    workflows.map (workflowRow viewer)⟩

def vertexLine (vertex : Vertex) : String := s!"[{vertex.op}] {vertex.name}\n"

def edgeLine (edge : Edge) : String := s!"{edge.source} -> {edge.target}:{edge.port}\n"

/-- Nodes and edges of a workflow, one on each line. -/
def workflowGraph (workflow : Workflow) : String :=
  let graph := workflow.adjacency
  String.join (graph.vertices.map vertexLine ++ graph.edges.map edgeLine)

def operatorDescription (op : Operator) : String :=
  let description := op.description.getD ""
  match op.deprecation with
  | some deprecation => s!"[deprecated: {deprecation}] {description}"
  | none => description

def argNames (args : List ArgDef) : String := commaSeparated (args.map ArgDef.name)

def operatorsTable (operators : List Operator) : Table :=
  ⟨["Operator", "Category", "Inputs", "Outputs", "Description"],
    operators.map fun op =>
      [op.name, op.category, argNames op.inputs, argNames op.outputs, operatorDescription op]⟩

end RunBoard.Terminal
