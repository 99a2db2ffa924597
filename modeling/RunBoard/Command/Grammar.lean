/-!
# Command lines

What a command takes: operands in order, and options by a long name or a letter, in any
order between them. An option has a value of its own, or it is a flag.
-/

namespace RunBoard.Command

/-- Why reading a command line ends before the command is known. -/
inductive Stop where
  | help
  | version
  | refused
  deriving DecidableEq, Repr

inductive OptionKind where
  | flag
  /-- Takes a value that is as asked for. -/
  | value (accepts : String → Bool)
  /-- Ends the reading. -/
  | stop (stop : Stop)

structure OptionRule where
  name : String
  letter : Option Char
  kind : OptionKind
  /-- Whether the option may be given more than once. -/
  repeats : Bool

namespace OptionRule

def flag (name : String) (letter : Option Char) : OptionRule := ⟨name, letter, .flag, false⟩

/-- An option that takes any text. -/
def text (name : String) (letter : Option Char) : OptionRule :=
  ⟨name, letter, .value fun _ => true, false⟩

/-- An option that takes a path, which is not empty. -/
def path (name : String) (letter : Option Char) : OptionRule :=
  ⟨name, letter, .value fun text => !text.isEmpty, false⟩

/-- An option that takes what a reader reads. -/
def read {α : Type} (name : String) (letter : Option Char) (reader : String → Option α) :
    OptionRule :=
  ⟨name, letter, .value fun text => (reader text).isSome, false⟩

def help : OptionRule := ⟨"help", some 'h', .stop .help, false⟩

def version : OptionRule := ⟨"version", some 'V', .stop .version, false⟩

end OptionRule

/-- What a command line gives: values of options by name, and operands, both in order. A
flag has an empty value. -/
structure Given where
  options : List (String × String)
  operands : List String
  deriving DecidableEq, Repr

namespace Given

def nothing : Given := ⟨[], []⟩

def has (given : Given) (name : String) : Bool := given.options.any fun entry => entry.1 = name

def value? (given : Given) (name : String) : Option String := given.options.lookup name

def values (given : Given) (name : String) : List String :=
  given.options.filterMap fun entry => if entry.1 = name then some entry.2 else none

/-- Takes note of an option. -/
def note (given : Given) (rule : OptionRule) (value : String) : Except Stop Given :=
  if given.has rule.name && !rule.repeats then .error .refused
  else
    match rule.kind with
    | .stop stop => .error stop
    | .value accepts =>
        if accepts value then
          .ok { given with options := given.options ++ [(rule.name, value)] }
        else .error .refused
    | .flag => .ok { given with options := given.options ++ [(rule.name, value)] }

def addOperands (given : Given) (operands : List String) : Given :=
  { given with operands := given.operands ++ operands }

end Given

/-- What one argument is. -/
inductive Argument where
  | operand
  /-- Behind it all arguments are operands. -/
  | divider
  | named (name : String) (value : Option String)
  | letters (letters : List Char)
  deriving DecidableEq, Repr

namespace Argument

/-- A single dash is an operand. -/
def ofText (text : String) : Argument :=
  match text.toList with
  | ['-', '-'] => divider
  | '-' :: '-' :: rest =>
      let name := String.ofList (rest.takeWhile (· ≠ '='))
      match rest.dropWhile (· ≠ '=') with
      | _ :: value => named name (some (String.ofList value))
      | [] => named name none
  | '-' :: c :: rest => letters (c :: rest)
  | _ => operand

end Argument

/-- The options that a command knows. -/
structure Grammar where
  options : List OptionRule

namespace Grammar

/-- An option that stands by itself; one that takes a value is still to get it. -/
def begin (given : Given) (rule : OptionRule) : Except Stop (Given × Option OptionRule) :=
  match rule.kind with
  | .value _ => .ok (given, some rule)
  | _ => do return (← given.note rule "", none)

def readNamed (grammar : Grammar) (given : Given) (name : String) (value : Option String) :
    Except Stop (Given × Option OptionRule) :=
  match grammar.options.find? (fun rule => rule.name = name), value with
  | none, _ => .error .refused
  | some rule, none => begin given rule
  | some rule, some value =>
      match rule.kind with
      | .value _ => do return (← given.note rule value, none)
      | _ => .error .refused

/-- Letters of flags, and behind them perhaps an option; what follows its letter is its
value. -/
def readLetters (grammar : Grammar) (given : Given) :
    List Char → Except Stop (Given × Option OptionRule)
  | [] => .ok (given, none)
  | letter :: rest =>
      match grammar.options.find? (fun rule => rule.letter = some letter), rest with
      | none, _ => .error .refused
      | some rule, [] => begin given rule
      | some rule, c :: behind =>
          match rule.kind with
          | .value _ => do
              let value := if c = '=' then behind else c :: behind
              return (← given.note rule (String.ofList value), none)
          | _ => do readLetters grammar (← given.note rule "") rest

/-- What an argument that is no operand gives, and the option that waits for a value. -/
def readOption (grammar : Grammar) (given : Given) :
    Argument → Except Stop (Given × Option OptionRule)
  | .named name value => grammar.readNamed given name value
  | .letters letters => grammar.readLetters given letters
  | _ => .ok (given, none)

/-- Reads arguments. With `leading`, the first operand and what is behind it are left to
whoever knows better. -/
def read (grammar : Grammar) (leading : Bool) (given : Given) :
    List String → Except Stop (Given × List String)
  | [] => .ok (given, [])
  | text :: rest =>
      match Argument.ofText text with
      | .divider => .ok (given.addOperands rest, [])
      | .operand =>
          if leading then .ok (given, text :: rest)
          else grammar.read leading (given.addOperands [text]) rest
      | argument => do
          match ← grammar.readOption given argument, rest with
          | (given, none), rest => grammar.read leading given rest
          | (given, some rule), value :: rest =>
              if Argument.ofText value = .operand then
                grammar.read leading (← given.note rule value) rest
              else .error .refused
          | (_, some _), [] => .error .refused

end Grammar

end RunBoard.Command
