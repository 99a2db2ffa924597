import RunBoard.Client.Error
import RunBoard.Time.Seconds
import RunBoard.Yaml.Printer
import RunBoard.Yaml.Reader

/-!
# Configuration

Where the gateway is, where the token is kept, and the sizes and times that the program
works with. A configuration file gives any of them; the others stay as they are by
default.
-/

namespace RunBoard

structure Config where
  server : String
  /-- The text of the path of the token file. -/
  tokenPath : String
  perPage : UInt32
  runsPerPage : UInt32
  pollInterval : Seconds
  timeout : Option Seconds
  deriving DecidableEq, Repr

/-- Settings that stand above a configuration, where they are given. -/
structure Overrides where
  server : Option String
  tokenPath : Option String
  deriving DecidableEq, Repr

namespace Config

def standard (tokenPath : String) : Config where
  server := "http://localhost:8888"
  tokenPath := tokenPath
  perPage := 30
  runsPerPage := 25
  pollInterval := .ofNat 10
  timeout := some (.ofNat 30)

/-- An empty server text gives none. -/
def override (config : Config) (overrides : Overrides) : Config :=
  { config with
    server := (overrides.server.filter fun server => !server.isEmpty).getD config.server
    tokenPath := overrides.tokenPath.getD config.tokenPath }

/-- The overrides that the environment has. -/
def environment (setting? : String → Option String) : Overrides :=
  ⟨setting? "ACCIO_SERVER", setting? "ACCIO_TOKEN_FILE"⟩

/-! ## As JSON -/

open Wire in
/-- How a configuration travels as JSON; what is missing is as in `defaults`. -/
def schema (defaults : Config) : Schema Config :=
  .record "ClientConfig"
    (.defaulting "server" defaults.server .text <|
      .defaulting "token_path" defaults.tokenPath (.scalar .path) <|
      .defaulting "per_page" defaults.perPage (.scalar .uint32) <|
      .defaulting "runs_per_page" defaults.runsPerPage (.scalar .uint32) <|
      .defaulting "poll_interval" defaults.pollInterval (.scalar .seconds) <|
      .defaulting "timeout" defaults.timeout (.optional (.scalar .seconds)) .done)
    (fun (server, tokenPath, perPage, runsPerPage, pollInterval, timeout, ()) =>
      ⟨server, tokenPath, perPage, runsPerPage, pollInterval, timeout⟩)
    (fun config =>
      (config.server, config.tokenPath, config.perPage, config.runsPerPage, config.pollInterval,
        config.timeout, ()))

/-! ## As YAML -/

/-- Why a file holds no configuration. -/
inductive Fault where
  | notYaml (fault : Yaml.Fault)
  | notAMapping
  | repeated (name : String)
  | unreadable (name : String)
  deriving DecidableEq, Repr

namespace Fault

def message : Fault → String
  | notYaml _ => "the file is not YAML"
  | notAMapping => "the file holds no mapping"
  | repeated name => s!"duplicate field `{name}`"
  | unreadable name => s!"{name}: invalid value"

end Fault

/-- Any scalar is a text, as it is written. -/
def textOf? : Yaml.Node → Option String
  | .scalar _ text => some (String.ofList text)
  | _ => none

def countOf? : Yaml.Node → Option UInt32
  | .scalar true text => ((Yaml.natural? text).filter fun n => n < UInt32.size).map UInt32.ofNat
  | _ => none

def secondsOf? : Yaml.Node → Option Seconds
  | .scalar true text => (Yaml.float? text).bind fun x => (Seconds.ofFloat x).toOption
  | _ => none

/-- A number of seconds, or nothing. -/
def timeoutOf? : Yaml.Node → Option (Option Seconds)
  | .scalar true text =>
      if text.isEmpty || Yaml.isNull text then some none
      else (secondsOf? (.scalar true text)).map some
  | node => (secondsOf? node).map some

def require {α : Type} (name : String) : Option α → Except Fault α
  | some value => .ok value
  | none => .error (.unreadable name)

/-- The configuration with one entry of a file. Names that mean nothing are passed over. -/
def setEntry (config : Config) (name : String) (value : Yaml.Node) : Except Fault Config := do
  match name with
  | "server" => return { config with server := ← require name (textOf? value) }
  | "token_path" => return { config with tokenPath := ← require name (textOf? value) }
  | "per_page" => return { config with perPage := ← require name (countOf? value) }
  | "runs_per_page" => return { config with runsPerPage := ← require name (countOf? value) }
  | "poll_interval" => return { config with pollInterval := ← require name (secondsOf? value) }
  | "timeout" => return { config with timeout := ← require name (timeoutOf? value) }
  | _ => return config

def names : List String :=
  ["server", "token_path", "per_page", "runs_per_page", "poll_interval", "timeout"]

/-- The configuration with the entries of a file, of which `seen` are done. -/
def setEntries (config : Config) (seen : List String) :
    List (Yaml.Node × Yaml.Node) → Except Fault Config
  | [] => .ok config
  | (key, value) :: rest => do
      let name ← require "a name" (textOf? key)
      if seen.contains name && names.contains name then .error (.repeated name)
      else setEntries (← config.setEntry name value) (name :: seen) rest

/-- The configuration that a document gives, over the defaults. An empty one gives
nothing. -/
def ofNode (defaults : Config) : Option Yaml.Node → Except Fault Config
  | none => .ok defaults
  | some (.mapping entries) => setEntries defaults [] entries
  | some (.scalar true []) => .ok defaults
  | some _ => .error .notAMapping

def parse (defaults : Config) (text : String) : Except ClientError Config :=
  match Yaml.read text with
  | .error fault => .error (.config (Fault.notYaml fault).message)
  | .ok document => (ofNode defaults document).mapError fun fault => .config fault.message

def write (config : Config) : String :=
  Yaml.writeMapping
    [("server", Yaml.writeText config.server),
     ("token_path", Yaml.writeText config.tokenPath),
     ("per_page", Nat.toDigits 10 config.perPage.toNat),
     ("runs_per_page", Nat.toDigits 10 config.runsPerPage.toNat),
     ("poll_interval", Yaml.writeFloat config.pollInterval.toFloat),
     ("timeout",
       match config.timeout with
       | some timeout => Yaml.writeFloat timeout.toFloat
       | none => Yaml.writeNull)]

/-- Keeps a configuration in a file. -/
def save (config : Config) (tree : Files.Tree) (path : Files.Path) :
    Except ClientError Files.Tree :=
  (tree.place path (Text.Utf8.bytes config.write)).mapError .io

/-- The configuration in a file; one that is missing gives the defaults. -/
def load (defaults : Config) (tree : Files.Tree) (path : Files.Path) :
    Except ClientError Config :=
  if tree.isThere path then do
    let text ← (tree.readText path).mapError .io
    parse defaults text
  else .ok defaults

end Config

end RunBoard
