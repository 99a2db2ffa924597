import RunBoard.Decimal.Layout
import RunBoard.Json.Reader
import RunBoard.Text.Classes

/-!
# Decoding errors

Why a JSON value is not what it was taken for, and how each reason is worded. A text that a
reason mentions stands in double quotes, with everything invisible written as an escape.
-/

namespace RunBoard

/-! ## Quoted text -/

namespace Text.Quoted

/-- A number in lower-case hexadecimal digits. -/
def hex (n : Nat) : List Char := Nat.toDigits 16 n

def isVisible (c : Char) : Bool :=
  !Classes.within Classes.unprintable c.toNat && !Classes.within Classes.extending c.toNat

def escape (c : Char) : List Char :=
  match c with
  | '\x00' => ['\\', '0']
  | '\t' => ['\\', 't']
  | '\n' => ['\\', 'n']
  | '\r' => ['\\', 'r']
  | '"' => ['\\', '"']
  | '\\' => ['\\', '\\']
  | c =>
      if 0x20 ≤ c.toNat && c.toNat < 0x7f || isVisible c then [c]
      else '\\' :: 'u' :: '{' :: (hex c.toNat ++ ['}'])

def quote (text : String) : String :=
  String.ofList ('"' :: (text.toList.flatMap escape ++ ['"']))

end Text.Quoted

/-! ## Reasons -/

namespace Wire

/-- What a decoder came upon. -/
inductive Found where
  | null
  | bool (value : Bool)
  | int (value : Int)
  | float (value : Float)
  | str (value : String)
  | sequence
  | map
  | unitVariant

/-- What a decoder was looking for. -/
inductive Wanted where
  | text
  | boolean
  | float
  | width (name : String)
  | sequence
  | map
  | record (name : String)
  | recordOf (name : String) (fields : Nat)
  | time
  | textOrMap
  | unit
  | path
  | fewerItems
  | singleKey
  | newtype
  deriving DecidableEq, Repr

inductive DecodeError where
  | wrongType (found : Found) (wanted : Wanted)
  | wrongValue (found : Found) (wanted : Wanted)
  | wrongLength (length : Nat) (wanted : Wanted)
  | missingField (name : String)
  | duplicateField (name : String)
  | unknownVariant (name : String) (known : List String)
  | illegalTime (millis : Int)
  | negativeSeconds
  | tooManySeconds

namespace Found

/-- How a decoder names a value. -/
def ofJson : Json → Found
  | .null => .null
  | .bool value => .bool value
  | .int value => .int value
  | .float value => .float value
  | .str value => .str value
  | .arr _ => .sequence
  | .obj _ => .map

def message : Found → String
  | null => "null"
  | bool true => "boolean `true`"
  | bool false => "boolean `false`"
  | int value => s!"integer `{value}`"
  | float value => "floating point `" ++ String.ofList (Decimal.Layout.json.write value) ++ "`"
  | str value => "string " ++ Text.Quoted.quote value
  | sequence => "sequence"
  | map => "map"
  | unitVariant => "unit variant"

end Found

namespace Wanted

def message : Wanted → String
  | text => "a string"
  | boolean => "a boolean"
  | float => "f64"
  | width name => name
  | sequence => "a sequence"
  | map => "a map"
  | record name => s!"struct {name}"
  | recordOf name 1 => s!"struct {name} with 1 element"
  | recordOf name fields => s!"struct {name} with {fields} elements"
  | time => "a unix timestamp in milliseconds"
  | textOrMap => "string or map"
  | unit => "unit"
  | path => "path string"
  | fewerItems => "fewer elements in array"
  | singleKey => "map with a single key"
  | newtype => "newtype variant"

end Wanted

namespace DecodeError

/-- The known names, as an error lists them. -/
def knownText : List String → String
  | [] => "there are no variants"
  | [only] => s!"expected `{only}`"
  | [first, second] => s!"expected `{first}` or `{second}`"
  | many => "expected one of " ++ ", ".intercalate (many.map fun name => s!"`{name}`")

def message : DecodeError → String
  | wrongType found wanted => s!"invalid type: {found.message}, expected {wanted.message}"
  | wrongValue found wanted => s!"invalid value: {found.message}, expected {wanted.message}"
  | wrongLength length wanted => s!"invalid length {length}, expected {wanted.message}"
  | missingField name => s!"missing field `{name}`"
  | duplicateField name => s!"duplicate field `{name}`"
  | unknownVariant name known => s!"unknown variant `{name}`, {knownText known}"
  | illegalTime millis => s!"value is not a legal timestamp: {millis}"
  | negativeSeconds => "cannot convert float seconds to Duration: value is negative"
  | tooManySeconds => "cannot convert float seconds to Duration: value is either too big or NaN"

/-- A value of one type where another is wanted. -/
def mistyped (value : Json) (wanted : Wanted) : DecodeError :=
  .wrongType (Found.ofJson value) wanted

end DecodeError

/-- Why a text does not hold what it was read for: it is no JSON, or JSON of another kind. -/
inductive TextError where
  | syntaxError (cause : Json.ReadError)
  | data (cause : DecodeError)

namespace TextError

/-- The kind of the error: an early end, a fault of the text, or a value of another kind. -/
def category : TextError → String
  | syntaxError cause => if cause.isEnd then "eof" else "syntax"
  | data _ => "data"

end TextError

end Wire

end RunBoard
