import RunBoard.Client.Error
import RunBoard.Json.Reader
import RunBoard.Model.Display

/-!
# Failures

Why a command comes to nothing, in the words that its user gets.
-/

namespace RunBoard.Command

inductive Failure where
  | client (error : ClientError)
  /-- A load that failed. -/
  | notice (notice : Notice)
  | cancelled (what : String)
  /-- A view that stopped before it had loaded. -/
  | stopped (state : String)
  | configuration (path : String) (cause : ClientError)
  | unwritable (path : String) (cause : Files.FileFault)
  | notJson (fault : Json.SyntaxFault)
  | invalidPassword
  | nothingToChange
  | noNode (run node : String)
  | noLogs (node : String) (label : StatusLabel)
  | noJob (name : String)

namespace Failure

def message : Failure → String
  | client error => error.message
  | notice shown => shown.text
  | cancelled what => s!"request for {what} was cancelled"
  | stopped state => s!"view stopped while {state}"
  | configuration path _ => s!"reading config {path}"
  | unwritable path _ => s!"writing {path}"
  | notJson fault => fault.message
  | invalidPassword => "Invalid password"
  | nothingToChange => "Nothing to change: pass --name, --notes or --tags"
  | noNode id name => s!"Run {id} has no node named {name}"
  | noLogs node label => s!"Node {node} has no logs ({label.text})"
  | noJob name => s!"Job {name} not found"

/-- What lies behind a failure that has a cause of its own. -/
def cause? : Failure → Option String
  | configuration _ cause => some cause.message
  | unwritable _ cause => some cause.message
  | _ => none

/-- A failure as it is reported, with what lies behind it further down. -/
def report (failure : Failure) : String :=
  let cause :=
    match failure.cause? with
    | some cause => s!"\n\nCaused by:\n    {cause}"
    | none => ""
  s!"Error: {failure.message}{cause}\n"

end Failure

end RunBoard.Command
