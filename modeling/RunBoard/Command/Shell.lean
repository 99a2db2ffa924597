import RunBoard.Command.Desk

/-!
# The program

A shell is where a command line is typed: the machine, the user, the settings of the
environment. It finds the configuration and carries the command out.
-/

namespace RunBoard.Command

structure Shell (m : Type → Type) where
  host : Host m
  console : Console m
  setting : Setting
  /-- Paths are seen from here. -/
  directory : Files.Path
  zone : Zone
  /-- How often a polled view loads at most. -/
  rounds : Nat

namespace Shell

variable {m : Type → Type} [Monad m]

/-! ## Configuration -/

/-- The variables of the environment that the program looks at. -/
def settingNames : List String :=
  ["ACCIO_SERVER", "ACCIO_PASSWORD", "ACCIO_TOKEN_FILE", "HOME", "XDG_CONFIG_HOME",
    "XDG_DATA_HOME"]

/-- A name inside a directory. -/
def inside (directory name : String) : String :=
  if directory.endsWith "/" then directory ++ name else directory ++ "/" ++ name

/-- The user's own directory of some kind: the one that a setting gives, if it starts from
the root, else one below the home directory. -/
def userDirectory? (setting : Setting) (name fallback : String) : Option String :=
  ((setting name).filter fun text => text.startsWith "/") <|>
    ((setting "HOME").filter fun text => !text.isEmpty).map fun home => inside home fallback

def standardConfig (setting : Setting) : Config :=
  .standard (inside ((userDirectory? setting "XDG_DATA_HOME" ".local/share").getD ".")
    "accio/access_token")

/-- The configuration file that is read when none is named. -/
def standardFile? (setting : Setting) : Option String :=
  (userDirectory? setting "XDG_CONFIG_HOME" ".config").map fun directory =>
    inside directory "accio/config.yaml"

/-- The configuration in a file, or the standard one. -/
def readConfig (shell : Shell m) (file : Option String) : Action m Config := do
  let standard := standardConfig shell.setting
  match file, file.bind (Files.Path.locate? shell.directory) with
  | some text, some path =>
      match Config.load standard (← shell.host.look path) path with
      | .ok config => return config
      | .error cause => throw (.configuration text cause)
  | _, _ => return standard

/-- The desk for an invocation. What the invocation says counts before the environment, and
the environment before the file. -/
def desk (shell : Shell m) (invocation : Invocation) : Action m (Desk m) := do
  let file := invocation.config <|> standardFile? shell.setting
  let config ← shell.readConfig file
  let config := (config.override (Config.environment shell.setting)).override
    ⟨invocation.server, none⟩
  match Client.ofConfig shell.host shell.directory config with
  | .ok client =>
      return ⟨shell.console, client, config, shell.directory, shell.zone, shell.rounds⟩
  | .error error => throw (.client error)

/-! ## Whole command lines -/

def versionText : String := "accio 0.2.0\n"

/-- How the program is used. -/
def usage : String :=
  "Usage: accio [OPTIONS] <COMMAND>\n\nCommands:\n" ++
    String.join (rules.map fun rule => s!"  {rule.name}  {rule.about}\n")

/-- Carries out a command line; answers the exit code. -/
def run (shell : Shell m) (arguments : List String) : m UInt32 := do
  match Invocation.parse shell.setting arguments with
  | .error .help => do
      shell.console.print usage
      return 0
  | .error .version => do
      shell.console.print versionText
      return 0
  | .error .refused => do
      shell.console.warn usage
      return 2
  | .ok invocation =>
      let outcome ← (do (← shell.desk invocation).perform invocation.command).run
      match outcome with
      | .ok () => return 0
      | .error failure => do
          shell.console.warn failure.report
          return 1

end Shell

end RunBoard.Command
