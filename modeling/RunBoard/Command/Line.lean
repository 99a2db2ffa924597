import RunBoard.Command.Grammar
import RunBoard.Model.Output
import RunBoard.Model.Run
import RunBoard.Text.Digits

/-!
# The commands

What the program can be told to do, and how it is told. Every command also takes the
options that say where the gateway and the configuration are; given in front of the
command and behind it, the latter count. The environment stands in for some options.
-/

namespace RunBoard

inductive Command where
  | login (password : Option String)
  | logout
  | whoami
  | runs (q : Option String) (page : UInt32) (parent workflow owner : Option String)
  | run (id : String) (asJson : Bool)
  | watch (id : String) (interval : Option UInt64)
  | logs (id node : String) (stream : LogStream) (follow : Bool)
  | saveLogs (id node : String) (stream : LogStream) (path : String)
  | outputs (id node : String)
  | edit (id : String) (patch : RunPatch)
  | kill (id : String) (isConfirmed : Bool)
  | workflow (id : String) (version : Option String) (withGraph : Bool)
  | workflows (q : Option String) (page : UInt32)
  | operators
  | jobs (page : UInt32) (labels : Option String)
  | job (name : String)
  deriving DecidableEq, Repr

namespace Command

/-- The value of a variable of the environment. -/
abbrev Setting := String → Option String

/-! ## Values -/

/-- A natural number, which may have a plus sign. -/
def natural? (text : List Char) : Option Nat :=
  match text with
  | '+' :: digits => Text.number? 10 digits
  | digits => Text.number? 10 digits

/-- The number of a page. A minus sign may stand before zero. -/
def page? (text : String) : Option UInt32 :=
  let number :=
    match text.toList with
    | '-' :: digits => (Text.number? 10 digits).filter (· = 0)
    | unsigned => natural? unsigned
  (number.filter (· < UInt32.size)).map UInt32.ofNat

/-- A number of seconds. -/
def interval? (text : String) : Option UInt64 :=
  ((natural? text.toList).filter (· < UInt64.size)).map UInt64.ofNat

/-! ## How each command is told -/

structure Rule where
  name : String
  about : String
  options : List OptionRule
  read : Setting → Given → Except Stop Command

def pageOption : OptionRule := .read "page" (some 'p') page?

def queryOption : OptionRule := .text "query" (some 'q')

/-- The page that is asked for, the first one if none is. -/
def pageOf (given : Given) : UInt32 := ((given.value? "page").bind page?).getD 1

def alone (command : Command) (given : Given) : Except Stop Command :=
  match given.operands with
  | [] => .ok command
  | _ => .error .refused

def withOne (command : String → Command) (given : Given) : Except Stop Command :=
  match given.operands with
  | [operand] => .ok (command operand)
  | _ => .error .refused

def withTwo (command : String → String → Command) (given : Given) : Except Stop Command :=
  match given.operands with
  | [first, second] => .ok (command first second)
  | _ => .error .refused

/-- Tags are separated by commas, or given one option after the other. -/
def tagsOf (given : Given) : Option (List String) :=
  if given.has "tags" then
    some ((given.values "tags").flatMap fun text =>
      (text.toList.splitOn ',').map String.ofList)
  else none

/-- Logs are saved or followed, not both. -/
def readLogs (given : Given) : Except Stop Command :=
  let stream : LogStream := if given.has "stderr" then .stderr else .stdout
  match given.value? "output", given.has "follow" with
  | some _, true => .error .refused
  | some path, false => withTwo (fun id node => .saveLogs id node stream path) given
  | none, follow => withTwo (fun id node => .logs id node stream follow) given

def rules : List Rule :=
  [⟨"login", "Log in and store the access token", [.text "password" none],
      fun setting given =>
        alone (.login (given.value? "password" <|> setting "ACCIO_PASSWORD")) given⟩,
    ⟨"logout", "Forget the stored access token", [], fun _ => alone .logout⟩,
    ⟨"whoami", "Check whether the stored token is accepted", [], fun _ => alone .whoami⟩,
    ⟨"runs", "List runs",
      [queryOption, pageOption, .text "parent" none, .text "workflow" none, .text "owner" none],
      fun _ given =>
        alone (.runs (given.value? "query") (pageOf given) (given.value? "parent")
          (given.value? "workflow") (given.value? "owner")) given⟩,
    ⟨"run", "Show a run with its parameters, nodes and children", [.flag "json" none],
      fun _ given => withOne (fun id => .run id (given.has "json")) given⟩,
    ⟨"watch", "Follow a run until it completes", [.read "interval" (some 'i') interval?],
      fun _ given =>
        withOne (fun id => .watch id ((given.value? "interval").bind interval?)) given⟩,
    ⟨"logs", "Print the logs of a node",
      [.flag "stderr" none, .flag "follow" (some 'f'), .path "output" (some 'o')],
      fun _ => readLogs⟩,
    ⟨"outputs", "Show artifacts and metrics produced by a node", [], fun _ => withTwo .outputs⟩,
    ⟨"edit", "Edit the name, notes or tags of a run",
      [.text "name" none, .text "notes" none, { OptionRule.text "tags" none with repeats := true }],
      fun _ given =>
        withOne (fun id =>
          .edit id ⟨given.value? "name", given.value? "notes", tagsOf given⟩) given⟩,
    ⟨"kill", "Kill a run", [.flag "yes" (some 'y')],
      fun _ given => withOne (fun id => .kill id (given.has "yes")) given⟩,
    ⟨"workflow", "Show a workflow and its latest runs",
      [.text "version" none, .flag "graph" none],
      fun _ given =>
        withOne (fun id => .workflow id (given.value? "version") (given.has "graph")) given⟩,
    ⟨"workflows", "List workflows", [queryOption, pageOption],
      fun _ given => alone (.workflows (given.value? "query") (pageOf given)) given⟩,
    ⟨"operators", "List available operators", [], fun _ => alone .operators⟩,
    ⟨"jobs", "List jobs", [pageOption, .text "labels" (some 'l')],
      fun _ given => alone (.jobs (pageOf given) (given.value? "labels")) given⟩,
    ⟨"job", "Show a job and its state history", [], fun _ => withOne .job⟩]

def rule? (name : String) : Option Rule := rules.find? fun rule => rule.name = name

end Command

/-! ## Whole command lines -/

/-- A command with where the gateway and the configuration file are said to be. -/
structure Invocation where
  server : Option String
  config : Option String
  command : Command
  deriving DecidableEq, Repr

namespace Invocation

open Command

/-- Options that stand in front of a command or behind it. -/
def commonOptions : List OptionRule := [.text "server" none, .path "config" none, .help]

/-- The names behind the word `help` must be names of commands. -/
def helpOn : List String → Stop
  | [] => .help
  | ["help"] => .help
  | [name] => if (rule? name).isSome then .help else .refused
  | _ => .refused

/-- Reads what stands behind the name of a command; `outer` stood in front. -/
def readBehind (setting : Setting) (outer : Given) (rule : Rule) (arguments : List String) :
    Except Stop Invocation := do
  let grammar : Grammar := ⟨rule.options ++ commonOptions⟩
  let (given, _) ← grammar.read false .nothing arguments
  let command ← rule.read setting given
  return ⟨given.value? "server" <|> outer.value? "server" <|> setting "ACCIO_SERVER",
    given.value? "config" <|> outer.value? "config", command⟩

def parse (setting : Setting) (arguments : List String) : Except Stop Invocation := do
  let grammar : Grammar := ⟨commonOptions ++ [.version]⟩
  match ← grammar.read true .nothing arguments with
  | (_, []) => .error .refused
  | (outer, name :: rest) =>
      if outer.operands.isEmpty then
        if name = "help" then .error (helpOn rest)
        else
          match rule? name with
          | some rule => readBehind setting outer rule rest
          | none => .error .refused
      else .error .refused

end Invocation

end RunBoard
