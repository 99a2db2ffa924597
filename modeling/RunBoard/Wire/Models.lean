import RunBoard.Model.Job
import RunBoard.Model.Output
import RunBoard.Model.Workflow
import RunBoard.Wire.Codec
import RunBoard.Wire.Scalars

/-!
# The wire format of the gateway

The schema of every record that the gateway sends or takes.
-/

namespace RunBoard.Wire

open Fields (required defaulting optional)

def dataType : Schema DataType :=
  .record "DataType"
    (required "base" .text <| defaulting "args" [] (.list .text) .done)
    (fun (base, args, ()) => ⟨base, args⟩)
    (fun kind => (kind.base, kind.args, ()))

def typedValue : Schema TypedValue :=
  .record "Value"
    (required "kind" dataType <| required "payload" .json .done)
    (fun (kind, payload, ()) => ⟨kind, payload⟩)
    (fun value => (value.kind, value.payload, ()))

def runStatus : Schema RunStatus := .enumeration RunStatus.all RunStatus.name

def nodeStatus : Schema NodeStatus := .enumeration NodeStatus.all NodeStatus.name

def jobState : Schema JobState := .enumeration JobState.all JobState.name

def nodeError : Schema NodeError :=
  .record "ErrorData"
    (defaulting "classifier" "" .text <| defaulting "message" "" .text <|
      defaulting "stacktrace" [] (.list .text) .done)
    (fun (classifier, message, stacktrace, ()) => ⟨classifier, message, stacktrace⟩)
    (fun error => (error.classifier, error.message, error.stacktrace, ()))

def nodeResult : Schema NodeResult :=
  .record "NodeResult" (optional "error" nodeError .done)
    (fun (error, ()) => ⟨error⟩)
    (fun result => (result.error, ()))

def nodeState : Schema NodeState :=
  .record "NodeState"
    (required "name" .text <| required "status" nodeStatus <|
      optional "started_at" .time <| optional "completed_at" .time <|
      optional "result" nodeResult <| defaulting "cache_hit" false .boolean .done)
    (fun (name, status, startedAt, completedAt, result, cacheHit, ()) =>
      ⟨name, status, startedAt, completedAt, result, cacheHit⟩)
    (fun node =>
      (node.name, node.status, node.startedAt, node.completedAt, node.result, node.cacheHit, ()))

def runState : Schema RunState :=
  .record "RunState"
    (required "status" runStatus <| optional "started_at" .time <|
      optional "completed_at" .time <| defaulting "progress" 0 .float <|
      defaulting "nodes" [] (.list nodeState) .done)
    (fun (status, startedAt, completedAt, progress, nodes, ()) =>
      ⟨status, startedAt, completedAt, progress, nodes⟩)
    (fun state =>
      (state.status, state.startedAt, state.completedAt, state.progress, state.nodes, ()))

def user : Schema User :=
  .record "User" (required "name" .text <| optional "email" .text .done)
    (fun (name, email, ()) => ⟨name, email⟩)
    (fun user => (user.name, user.email, ()))

def package : Schema Package :=
  .record "Package"
    (required "workflow_id" .text <| defaulting "workflow_version" "" .text .done)
    (fun (workflowId, workflowVersion, ()) => ⟨workflowId, workflowVersion⟩)
    (fun pkg => (pkg.workflowId, pkg.workflowVersion, ()))

def run : Schema Run :=
  .record "Run"
    (required "id" .text <| optional "name" .text <| optional "parent" .text <|
      required "created_at" .time <| defaulting "owner" User.nobody user <|
      defaulting "pkg" Package.unnamed package <| defaulting "seed" 0 (.scalar .int64) <|
      defaulting "tags" [] (.list .text) <| optional "notes" .text <|
      defaulting "params" KeyMap.empty (.keyed typedValue) <| required "state" runState <|
      defaulting "children" [] (.list .text) .done)
    (fun (id, name, parent, createdAt, owner, pkg, seed, tags, notes, params, state, children,
        ()) =>
      ⟨id, name, parent, createdAt, owner, pkg, seed, tags, notes, params, state, children⟩)
    (fun run =>
      (run.id, run.name, run.parent, run.createdAt, run.owner, run.pkg, run.seed, run.tags,
        run.notes, run.params, run.state, run.children, ()))

def runList : Schema RunList :=
  .record "RunList"
    (defaulting "results" [] (.list run) <|
      defaulting "total_count" 0 (.scalar .uint64) .done)
    (fun (results, totalCount, ()) => ⟨results, totalCount⟩)
    (fun list => (list.results, list.totalCount, ()))

def runPatch : Schema RunPatch :=
  .record "RunMetadataPatch"
    (.field "name" .unsetOmitted (.optional .text) <|
      .field "notes" .unsetOmitted (.optional .text) <|
      .field "tags" .unsetOmitted (.optional (.list .text)) .done)
    (fun (name, notes, tags, ()) => ⟨name, notes, tags⟩)
    (fun patch => (patch.name, patch.notes, patch.tags, ()))

def logLine : Schema LogLine :=
  .record "LogLine"
    (required "created_at" .time <| optional "classifier" .text <|
      required "message" .text .done)
    (fun (createdAt, classifier, message, ()) => ⟨createdAt, classifier, message⟩)
    (fun line => (line.createdAt, line.classifier, line.message, ()))

def artifact : Schema Artifact :=
  .record "Artifact" (required "name" .text <| required "value" typedValue .done)
    (fun (name, value, ()) => ⟨name, value⟩)
    (fun artifact => (artifact.name, artifact.value, ()))

def metric : Schema Metric :=
  .record "Metric" (required "name" .text <| required "value" .float .done)
    (fun (name, value, ()) => ⟨name, value⟩)
    (fun metric => (metric.name, metric.value, ()))

def paramDef : Schema ParamDef :=
  .record "ParamDef"
    (required "name" .text <| required "kind" dataType <|
      optional "default_value" typedValue <| defaulting "is_optional" false .boolean .done)
    (fun (name, kind, value, isOptional, ()) => ⟨name, kind, value, isOptional⟩)
    (fun param => (param.name, param.kind, param.default, param.isOptional, ()))

def reference : Schema Reference :=
  .record "Reference" (required "node" .text <| required "port" .text .done)
    (fun (node, port, ()) => ⟨node, port⟩)
    (fun reference => (reference.node, reference.port, ()))

def input : Schema Input :=
  .tagged
    (.case "value" typedValue .value (fun | .value typed => some typed | _ => none) <|
      .case "param" .text .param (fun | .param name => some name | _ => none) <|
      .case "reference" reference .reference (fun | .reference target => some target | _ => none)
      .done)

def graphNode : Schema GraphNode :=
  .record "GraphNode"
    (required "name" .text <| required "op" .text <|
      defaulting "inputs" KeyMap.empty (.keyed input) .done)
    (fun (name, op, inputs, ()) => ⟨name, op, inputs⟩)
    (fun node => (node.name, node.op, node.inputs, ()))

def workflow : Schema Workflow :=
  .record "Workflow"
    (required "id" .text <| defaulting "version" "" .text <| optional "name" .text <|
      defaulting "owner" User.nobody user <| required "created_at" .time <|
      defaulting "params" [] (.list paramDef) <| defaulting "graph" [] (.list graphNode) .done)
    (fun (id, version, name, owner, createdAt, params, graph, ()) =>
      ⟨id, version, name, owner, createdAt, params, graph⟩)
    (fun workflow =>
      (workflow.id, workflow.version, workflow.name, workflow.owner, workflow.createdAt,
        workflow.params, workflow.graph, ()))

def workflowList : Schema WorkflowList :=
  .record "WorkflowList"
    (defaulting "results" [] (.list workflow) <|
      defaulting "total_count" 0 (.scalar .uint64) .done)
    (fun (results, totalCount, ()) => ⟨results, totalCount⟩)
    (fun list => (list.results, list.totalCount, ()))

def argDef : Schema ArgDef :=
  .record "ArgDef"
    (required "name" .text <| required "kind" dataType <| optional "help" .text <|
      defaulting "is_optional" false .boolean <| optional "default_value" typedValue .done)
    (fun (name, kind, help, isOptional, value, ()) => ⟨name, kind, help, isOptional, value⟩)
    (fun arg => (arg.name, arg.kind, arg.help, arg.isOptional, arg.default, ()))

def operator : Schema Operator :=
  .record "Operator"
    (required "name" .text <| defaulting "category" "" .text <| optional "description" .text <|
      defaulting "inputs" [] (.list argDef) <| defaulting "outputs" [] (.list argDef) <|
      optional "deprecation" .text .done)
    (fun (name, category, description, inputs, outputs, deprecation, ()) =>
      ⟨name, category, description, inputs, outputs, deprecation⟩)
    (fun op => (op.name, op.category, op.description, op.inputs, op.outputs, op.deprecation, ()))

def jobStatus : Schema JobStatus :=
  .record "JobStatus"
    (required "state" jobState <| required "time" .time <| optional "message" .text .done)
    (fun (state, time, message, ()) => ⟨state, time, message⟩)
    (fun status => (status.state, status.time, status.message, ()))

def job : Schema Job :=
  .record "Job"
    (required "name" .text <| defaulting "labels" KeyMap.empty (.keyed .text) <|
      required "status" jobStatus <| defaulting "progress" 0 .float <|
      defaulting "history" [] (.list jobStatus) .done)
    (fun (name, labels, status, progress, history, ()) =>
      ⟨name, labels, status, progress, history⟩)
    (fun job => (job.name, job.labels, job.status, job.progress, job.history, ()))

def jobList : Schema JobList :=
  .record "JobList"
    (defaulting "jobs" [] (.list job) <|
      defaulting "totalCount" 0 (.scalar .uint64) .done)
    (fun (jobs, totalCount, ()) => ⟨jobs, totalCount⟩)
    (fun list => (list.jobs, list.totalCount, ()))

end RunBoard.Wire
