import RunBoard.Json.Printer

/-!
# Typed values

Parameters, defaults and artifacts are JSON payloads together with a data type. The type
decides how the payload is shown.
-/

namespace RunBoard

/-- A data type, for instance `list(int)` with base `list` and argument `int`. -/
structure DataType where
  base : String
  args : List String
  deriving DecidableEq, Repr, Inhabited

namespace DataType

def arg (kind : DataType) (index : Nat) : String := (kind.args[index]?).getD "?"

/-- The type in short; a missing argument shows as a question mark. -/
def text (kind : DataType) : String :=
  if kind.base = "list" || kind.base = "set" then s!"{kind.base}({kind.arg 0})"
  else if kind.base = "map" then s!"map({kind.arg 0}, {kind.arg 1})"
  else kind.base

end DataType

namespace Json

mutual

/-- A payload in short: bare texts, nothing for null, `key=value` for members. -/
def brief : Json → String
  | .null => ""
  | .str text => text
  | .arr items => "[" ++ ", ".intercalate (briefItems items) ++ "]"
  | .obj members => "\x7b" ++ ", ".intercalate (briefMembers members) ++ "\x7d"
  | plain => plain.compact

def briefItems : List Json → List String
  | [] => []
  | item :: rest => brief item :: briefItems rest

def briefMembers : List (String × Json) → List String
  | [] => []
  | (key, value) :: rest => (key ++ "=" ++ brief value) :: briefMembers rest

end

end Json

structure TypedValue where
  kind : DataType
  payload : Json

namespace TypedValue

/-- A payload as its type has it shown: distances and durations with their unit, a data
set by its address. -/
def shown (payload : Json) (kind : DataType) : String :=
  if kind.base = "distance" then payload.brief ++ " meters"
  else if kind.base = "duration" then payload.brief ++ " millis"
  else if kind.base = "dataset" then ((payload.get? "uri").getD payload).brief
  else payload.brief

def text (value : TypedValue) : String := shown value.payload value.kind

end TypedValue

end RunBoard
