import RunBoard.Model.Job
import RunBoard.Model.Run
import RunBoard.Time.Wording

/-!
# Displayed statuses

What a status record shows at a given time. The time is an argument, so that a running
duration is worked out anew whenever it is shown. Progress is shown in percent, and a listing
says how many pages it has.
-/

namespace RunBoard

/-! ## Placeholder, pages and percentages -/

/-- Shown wherever a time or a duration is not available. -/
def placeholder : String := "—"

/-- How many pages of this size hold all entries; no size, no pages. -/
def pageCount (total perPage : Nat) : Nat :=
  if perPage = 0 then 0 else (total + perPage - 1) / perPage

/-- A fraction in percent; what is outside of nothing and all counts as the nearer of them. -/
def progressPercent (progress : Float) : Nat :=
  let bounded := if progress < 0 then 0 else if 1 < progress then 1 else progress
  (bounded * 100).round.toUInt32.toNat

/-! ## Statuses -/

inductive StatusLabel where
  | scheduled
  | waiting
  | running
  | successful
  | failed
  | killed
  | lost
  | cancelled
  | cacheHit
  deriving DecidableEq, Repr

namespace StatusLabel

/-- The stable name of a label. -/
def key : StatusLabel → String
  | scheduled => "scheduled"
  | waiting => "waiting"
  | running => "running"
  | successful => "successful"
  | failed => "failed"
  | killed => "killed"
  | lost => "lost"
  | cancelled => "cancelled"
  | cacheHit => "cache_hit"

def text : StatusLabel → String
  | scheduled => "Scheduled"
  | waiting => "Waiting"
  | running => "Running"
  | successful => "Successful"
  | failed => "Failed"
  | killed => "Killed"
  | lost => "Lost"
  | cancelled => "Cancelled"
  | cacheHit => "Cache hit"

end StatusLabel

inductive Glyph where
  | ok
  | remove
  | refresh
  | upload
  | time
  | exclamation
  deriving DecidableEq, Repr

namespace Glyph

def symbol : Glyph → String
  | ok => "✓"
  | remove => "✗"
  | refresh => "↻"
  | upload => "⇡"
  | time => "⌛"
  | exclamation => "!"

end Glyph

structure StatusDisplay where
  label : StatusLabel
  glyph : Glyph
  duration : Option Span
  successful : Bool
  deriving DecidableEq, Repr

namespace StatusDisplay

/-- A display that is successful just when its label says so. -/
def labelled (label : StatusLabel) (glyph : Glyph) (duration : Option Span) : StatusDisplay :=
  ⟨label, glyph, duration, label = .successful⟩

def durationText (display : StatusDisplay) : String :=
  match display.duration with
  | some span => span.humanize
  | none => placeholder

/-- Glyph and label, as a table shows them. -/
def cell (display : StatusDisplay) : String :=
  display.glyph.symbol ++ " " ++ display.label.text

end StatusDisplay

/-- The time that a lifecycle took, or has taken by now. -/
def elapsed (started completed : Option Timestamp) (now : Timestamp) : Option Span :=
  started.map fun start => Span.between start (completed.getD now)

namespace RunState

def display (state : RunState) (now : Timestamp) : StatusDisplay :=
  let duration := elapsed state.startedAt state.completedAt now
  if state.isCompleted then
    if state.isSuccessful then .labelled .successful .ok duration
    else .labelled .failed .remove duration
  else if state.isStarted then .labelled .running .refresh duration
  else .labelled .scheduled .upload none

end RunState

namespace NodeState

def glyph (node : NodeState) : Glyph :=
  if node.completedAt.isSome then
    match node.status with
    | .success => .ok
    | .lost => .time
    | .killed => .exclamation
    | _ => .remove
  else if node.startedAt.isSome then .refresh
  else .upload

/-- The label of a node that was not served from a cache, cancelled or killed. -/
def progressLabel (node : NodeState) : StatusLabel :=
  if node.completedAt.isSome then
    match node.status with
    | .success => .successful
    | .lost => .lost
    | _ => .failed
  else if node.startedAt.isSome then .running
  else if node.status = .waiting then .waiting
  else .scheduled

def display (node : NodeState) (now : Timestamp) : StatusDisplay :=
  let duration := elapsed node.startedAt node.completedAt now
  if node.cacheHit then ⟨.cacheHit, node.glyph, none, true⟩
  else
    match node.status with
    | .cancelled => .labelled .cancelled .exclamation duration
    | .killed => .labelled .killed .exclamation duration
    | _ => .labelled node.progressLabel node.glyph duration

/-- What a node did or does, in one line. -/
def summary (node : NodeState) (now : Timestamp) : String :=
  let display := node.display now
  match display.label with
  | .successful | .failed | .lost => "Ran for " ++ display.durationText
  | .running => "Running for " ++ display.durationText
  | label => label.text

end NodeState

namespace Run

/-- What a child run is doing, as its parent lists it. -/
def childSummary (run : Run) : Option String :=
  let firstWith := fun status => run.state.nodes.find? fun node => node.status = status
  match run.state.status with
  | .running =>
      let active := run.state.nodes.filter fun node => node.status = .running
      if active.isEmpty then
        (firstWith .scheduled).map fun node => "Waiting for " ++ node.name
      else some ("Running " ++ ", ".intercalate (active.map NodeState.name))
  | .killed => some "Cancelled"
  | .failed =>
      match firstWith .failed with
      | some node => some ("Failed in " ++ node.name)
      | none => (firstWith .lost).map fun node => "Lost " ++ node.name
  | _ => none

end Run

namespace Job

def display (job : Job) (now : Timestamp) : StatusDisplay :=
  let completed := if job.isCompleted then some job.status.time else none
  let duration := elapsed job.startedAt completed now
  match job.status.state with
  | .successful => .labelled .successful .ok duration
  | .failed => .labelled .failed .remove duration
  | .canceled => .labelled .cancelled .exclamation duration
  | .lost => .labelled .lost .time duration
  | .running => .labelled .running .refresh duration
  | .pending | .scheduled => .labelled .scheduled .upload none

end Job

end RunBoard
