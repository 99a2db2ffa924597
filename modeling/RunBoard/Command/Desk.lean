import RunBoard.Client.Login
import RunBoard.Command.Console
import RunBoard.Command.Failure
import RunBoard.Command.Line
import RunBoard.Jobs.Session
import RunBoard.Terminal.Jobs
import RunBoard.Terminal.Workflows
import RunBoard.View.LogFollower

/-!
# Carrying out commands

A client at work for one command. What a command prints goes to the user as it becomes
known, also when the command fails later on.
-/

namespace RunBoard.Command

open Load Terminal

structure Desk (m : Type → Type) where
  console : Console m
  client : Client m
  config : Config
  /-- Paths are seen from here. -/
  directory : Files.Path
  zone : Zone
  /-- How often a polled view loads at most. -/
  rounds : Nat

/-- What a command does; it may fail. -/
abbrev Action (m : Type → Type) (α : Type) := ExceptT Failure m α

namespace Desk

variable {m : Type → Type} [Monad m]

def printLine (desk : Desk m) (text : String) : m Unit := desk.console.printLine text

def viewer (desk : Desk m) : m Viewer := do
  return ⟨desk.zone, ← desk.console.now⟩

/-- The value of a request, or the notice that `what` could not be loaded. -/
def settle {α : Type} (what : String) (pending : Pending m ClientError α) : Action m α := do
  match ← pending.await with
  | some (.ok value) => return value
  | some (.error error) => throw (.notice (error.notice what))
  | none => throw (.cancelled what)

/-- The data of a view that has loaded. -/
def loaded {α : Type} : LoadState α → Except Failure α
  | .loaded data => .ok data
  | .failed notice => .error (.notice notice)
  | state => .error (.stopped state.name)

/-- Loads a view once. -/
def view {κ α : Type} [DecidableEq κ] (view : View m κ α) (identity : κ) : Action m α := do
  ExceptT.mk (loaded <$> view.once identity)

/-! ## Access -/

def login (desk : Desk m) (password : Option String) : Action m Unit := do
  let password ←
    match password with
    | some password => pure password
    | none => do
        desk.console.print "Password: "
        pure (Console.withoutBreak (← desk.console.readLine))
  if ← settle "authentication" (desk.client.authenticate password) then
    desk.printLine s!"✓ Logged in to {desk.client.base.text}"
  else throw .invalidPassword

def logout (desk : Desk m) : Action m Unit := do
  match ← desk.client.logout with
  | .ok () => desk.printLine "Logged out."
  | .error error => throw (.client error)

def whoami (desk : Desk m) : Action m Unit := do
  let authenticated ← settle "authentication" desk.client.checkAuthenticated
  let token := if (← desk.client.token).isSome then "stored" else "none"
  let status := if authenticated then "authenticated" else "anonymous"
  desk.printLine s!"Gateway: {desk.client.base.text}"
  desk.printLine s!"Token:   {token} ({desk.config.tokenPath})"
  desk.printLine s!"Status:  {status}"

/-! ## Runs -/

def runs (desk : Desk m) (query : RunQuery) : Action m Unit := do
  let list ← Desk.view (View.runList desk.client) query
  if list.results.isEmpty then desk.printLine "No runs found."
  else
    desk.printLine (runsTable (← desk.viewer) list.results).text
    desk.printLine (pagination query.page list.totalCount query.perPage)

/-- The nodes of a run and what went wrong in them. -/
def printNodes (desk : Desk m) (viewer : Viewer) (nodes : List NodeState) : m Unit := do
  desk.printLine (nodesTable viewer nodes).text
  desk.console.print (nodeErrors nodes)

/-- A run as the gateway keeps it. -/
def runAsJson (desk : Desk m) (id : String) : Action m Unit := do
  match Json.parse (← settle "run" (desk.client.downloadRun id)) with
  | .ok value => desk.printLine value.indented
  | .error fault => throw (.notJson fault)

def run (desk : Desk m) (id : String) : Action m Unit := do
  let detail ← Desk.view (View.run desk.client) id
  let viewer ← desk.viewer
  desk.printLine (runSummary viewer detail)
  if !detail.run.params.isEmpty then desk.printLine (paramsTable detail.run).text
  let nodes := detail.run.state.nodesByStart
  if !nodes.isEmpty then desk.printNodes viewer nodes
  if detail.run.hasChildren then
    let children ← Desk.view (View.children desk.client) id
    desk.printLine s!"── Child runs ({children.length}) ──"
    desk.printLine (childrenTable viewer children).text

/-- Watches a run and shows how it ended. -/
def watch (desk : Desk m) (id : String) (period : Nat) : Action m Unit := do
  let view := View.runWatch desk.client period
  let onlooker := fun (state : LoadState Run) => do
    match state with
    | .loaded seen =>
        if seen.state.isCompleted then desk.printNodes (← desk.viewer) seen.state.nodesByStart
    | _ => return
  let _ ← view.follow (desk.console.pause period) onlooker desk.rounds (view.mount id)

/-! ## Nodes -/

def printLog (desk : Desk m) (lines : List LogLine) : m Unit :=
  lines.forM fun line => desk.printLine (logText desk.zone line)

/-- Does what a follower wants done; `tail` is the view of the log. -/
def follow (desk : Desk m) (tail : Mount LogTarget (List LogLine)) :
    LogFollower.Effect → m (Mount LogTarget (List LogLine))
  | .print lines => do
      desk.printLog lines
      return tail
  | .warn notice => do
      desk.console.warn (notice.text ++ "\n")
      return tail
  | .readLast target => return (tail.step (.setIdentity target)).1

/-- A log that is followed: the views of the log and of its run, and what reads them. -/
structure LogReading where
  tail : Mount LogTarget (List LogLine)
  status : Mount String Run
  follower : LogFollower

def startReading (desk : Desk m) (period : Nat) (target : LogTarget) : LogReading :=
  ⟨(View.logTail desk.client period).mount target,
    (View.runWatch desk.client period).mount target.run, .start target⟩

/-- Reads the log and then the run. -/
def followRound (desk : Desk m) (period : Nat) (reading : LogReading) : m LogReading := do
  let tail ← (View.logTail desk.client period).load reading.tail
  let (follower, effects) := reading.follower.step (.lines tail.published)
  let tail ← effects.foldlM desk.follow tail
  if follower.isDone then return ⟨tail, reading.status, follower⟩
  let status ← (View.runWatch desk.client period).load reading.status
  let (follower, effects) := follower.step (.run status.published)
  let tail ← effects.foldlM desk.follow tail
  if tail.published.isSettled then desk.console.pause period
  return ⟨View.wake tail, View.wake status, follower⟩

/-- Reads the log and the run in turn, until the follower is done. -/
def followLog (desk : Desk m) (period : Nat) (reading : LogReading) : Nat → m LogReading
  | 0 => return reading
  | rounds + 1 => do
      let next ← desk.followRound period reading
      if next.follower.isDone then return next else desk.followLog period next rounds

def logs (desk : Desk m) (id node : String) (stream : LogStream) (follow : Bool) :
    Action m Unit := do
  let run ← settle "run" (desk.client.getRun id)
  let some state := run.state.node? node | throw (.noNode id node)
  if !state.hasLogs then throw (.noLogs node (state.display (← desk.console.now)).label)
  let period := desk.config.pollInterval.millis
  let target : LogTarget := ⟨id, node, stream, follow⟩
  if follow && target.isLive run then
    let _ ← desk.followLog period (desk.startReading period target) desk.rounds
  else
    desk.printLog
      (← Desk.view (View.logTail desk.client period) { target with follow := false })

/-- Writes a file where a text says. -/
def writeFile (desk : Desk m) (text : String) (bytes : List UInt8) : Action m Unit := do
  let outcome ←
    match Files.Path.locate? desk.directory text with
    | some path =>
        desk.client.host.change path fun tree => tree.write path bytes Files.Tree.commonMode
    | none => pure (.error .notFound)
  match outcome with
  | .ok () => return
  | .error fault => throw (.unwritable text fault)

def saveLogs (desk : Desk m) (id node : String) (stream : LogStream) (path : String) :
    Action m Unit := do
  let bytes ← settle "logs" (desk.client.downloadLogs id node stream)
  desk.writeFile path bytes
  desk.printLine s!"Saved {bytes.length} bytes of {stream.name} to {path}"

def outputs (desk : Desk m) (id node : String) : Action m Unit := do
  let outputs ← Desk.view (View.nodeOutputs desk.client) ⟨id, node⟩
  if outputs.artifacts.isEmpty && outputs.metrics.isEmpty then desk.printLine "No outputs."
  else
    if !outputs.artifacts.isEmpty then desk.printLine (artifactsTable outputs.artifacts).text
    if !outputs.metrics.isEmpty then desk.printLine (metricsTable outputs.metrics).text

/-! ## Changes -/

def edit (desk : Desk m) (id : String) (patch : RunPatch) : Action m Unit := do
  if patch.isEmpty then throw .nothingToChange
  settle "run" (desk.client.updateRun id patch)
  desk.printLine s!"✓ Updated run {id}"

def kill (desk : Desk m) (id : String) (isConfirmed : Bool) : Action m Unit := do
  let agreed ← if isConfirmed then pure true else desk.console.confirm s!"Kill run {id}?"
  if agreed then
    settle "run" (desk.client.killRun id)
    desk.printLine s!"✓ Kill requested for run {id}"
  else desk.printLine "Aborted."

/-! ## Workflows -/

def workflow (desk : Desk m) (id : String) (version : Option String) (withGraph : Bool) :
    Action m Unit := do
  let content ← Desk.view (View.workflow desk.client) ⟨id, version⟩
  let viewer ← desk.viewer
  desk.printLine (workflowSummary viewer content.workflow)
  if !content.workflow.params.isEmpty then
    desk.printLine (workflowParamsTable content.workflow).text
  if withGraph then desk.console.print (workflowGraph content.workflow)
  if !content.lastRuns.isEmpty then
    desk.printLine "── Latest runs ──"
    desk.printLine (runsTable viewer content.lastRuns).text

def workflows (desk : Desk m) (q : Option String) (page : UInt32) : Action m Unit := do
  let list ← settle "workflows" (desk.client.listWorkflows q page)
  if list.results.isEmpty then desk.printLine "No workflows found."
  else
    desk.printLine (workflowsTable (← desk.viewer) list.results).text
    desk.printLine (pagination page list.totalCount (.ofNat Endpoint.workflowsPerPage))

def operators (desk : Desk m) : Action m Unit := do
  desk.printLine (operatorsTable (← settle "operators" desk.client.listOperators)).text

/-! ## Jobs -/

/-- The store after a call that has not failed. -/
def filled : Jobs.CallResult × Jobs.Store → Except Failure Jobs.Store
  | (.failed notice, _) => .error (.notice notice)
  | (_, store) => .ok store

def jobs (desk : Desk m) (page : UInt32) (labels : Option String) : Action m Unit := do
  let store ← ExceptT.mk (filled <$> Jobs.fetchList desk.client .empty ⟨page, labels⟩)
  if store.list.names.isEmpty then desk.printLine "No jobs found."
  else
    desk.printLine (jobsTable (← desk.viewer) store.rows).text
    desk.printLine (pagination store.list.key.page store.list.totalCount desk.client.perPage)

def job (desk : Desk m) (name : String) : Action m Unit := do
  let store ← ExceptT.mk (filled <$> Jobs.fetchJob desk.client .empty name)
  let some job := store.job? name | throw (.noJob name)
  let viewer ← desk.viewer
  desk.printLine (jobSummary viewer job)
  if !job.history.isEmpty then desk.printLine (jobHistoryTable viewer job).text

/-! ## Any command -/

def perform (desk : Desk m) : Command → Action m Unit
  | .login password => desk.login password
  | .logout => desk.logout
  | .whoami => desk.whoami
  | .runs q page parent workflow owner =>
      desk.runs ⟨page, desk.config.runsPerPage, q, parent, workflow, owner⟩
  | .run id true => desk.runAsJson id
  | .run id false => desk.run id
  | .watch id interval =>
      desk.watch id (((interval.map fun n => Seconds.ofNat n.toNat).getD
        desk.config.pollInterval).millis)
  | .logs id node stream follow => desk.logs id node stream follow
  | .saveLogs id node stream path => desk.saveLogs id node stream path
  | .outputs id node => desk.outputs id node
  | .edit id patch => desk.edit id patch
  | .kill id isConfirmed => desk.kill id isConfirmed
  | .workflow id version withGraph => desk.workflow id version withGraph
  | .workflows q page => desk.workflows q page
  | .operators => desk.operators
  | .jobs page labels => desk.jobs page labels
  | .job name => desk.job name

end Desk

end RunBoard.Command
