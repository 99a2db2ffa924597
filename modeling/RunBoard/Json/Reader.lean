import RunBoard.Decimal.Literal
import RunBoard.Json.Value
import RunBoard.Text.Utf8

/-!
# Reading JSON

One character at a time goes into a state: what is being read, and the arrays and objects
that are open around it. A text that stops being JSON still shows what stood before the
fault, so that a reader with expectations can report whichever fault comes first.
-/

namespace RunBoard.Json

/-- Why a text is not JSON. -/
inductive ReadError where
  | endInList
  | endInObject
  | endInString
  | endInValue
  | expectedColon
  | expectedCommaOrBracket
  | expectedCommaOrBrace
  | expectedWord
  | expectedValue
  | badEscape
  | badNumber
  | numberOutOfRange
  | badCodePoint
  | controlCharacter
  | keyNotString
  | loneSurrogate
  | unfinishedSurrogate
  | trailingComma
  | trailingCharacters
  | tooDeep
  deriving DecidableEq, Repr

namespace ReadError

def message : ReadError → String
  | endInList => "EOF while parsing a list"
  | endInObject => "EOF while parsing an object"
  | endInString => "EOF while parsing a string"
  | endInValue => "EOF while parsing a value"
  | expectedColon => "expected `:`"
  | expectedCommaOrBracket => "expected `,` or `]`"
  | expectedCommaOrBrace => "expected `,` or `\x7d`"
  | expectedWord => "expected ident"
  | expectedValue => "expected value"
  | badEscape => "invalid escape"
  | badNumber => "invalid number"
  | numberOutOfRange => "number out of range"
  | badCodePoint => "invalid unicode code point"
  | controlCharacter =>
      "control character (\\u0000-\\u001F) found while parsing a string"
  | keyNotString => "key must be a string"
  | loneSurrogate => "lone leading surrogate in hex escape"
  | unfinishedSurrogate => "unexpected end of hex escape"
  | trailingComma => "trailing comma"
  | trailingCharacters => "trailing characters"
  | tooDeep => "recursion limit exceeded"

/-- Whether the text ended where more was due. -/
def isEnd : ReadError → Bool
  | endInList | endInObject | endInString | endInValue => true
  | _ => false

end ReadError

/-- A text of JSON in its own order, with repeated keys, up to the fault if there is one. -/
inductive Written where
  | plain (value : Json)
  | arr (items : List Written) (fault : Option ReadError)
  | obj (members : List (String × Written)) (fault : Option ReadError)
  | broken (fault : ReadError)
  deriving Inhabited

/-- An array or object that is still open, what it holds so far in reverse. -/
inductive Frame where
  | arr (items : List Written)
  | obj (members : List (String × Written)) (key : String)

/-- Where in a number the reader stands. -/
inductive NumberPart where
  | sign
  | zero
  | whole
  | point
  | fraction
  | mark
  | markSign
  | exponent
  deriving DecidableEq

/-- A number read so far, digits in reverse. -/
structure NumberText where
  negative : Bool
  whole : List Nat
  fraction : List Nat
  exponentNegative : Bool
  exponent : List Nat
  part : NumberPart

/-- A string read so far, characters in reverse. `damaged` is set once a byte was met that
is no part of a character. -/
structure StringText where
  isKey : Bool
  chars : List Char
  damaged : Bool

/-- What the reader is in the middle of. -/
inductive Mode where
  | value
  | firstItem
  | nextItem
  | word (rest : List Char) (value : Json)
  | number (text : NumberText)
  | string (text : StringText)
  | escape (text : StringText)
  | hex (text : StringText) (lead : Option Nat) (digits : List (Option Char))
  | trail (text : StringText) (lead : Nat)
  | trailMark (text : StringText) (lead : Nat)
  | after
  | firstKey
  | nextKey
  | colon (key : String)

structure State where
  mode : Mode
  open_ : List Frame
  /-- The value of the whole text, once it is complete. -/
  result : Option Written

namespace NumberText

def digitsValue (reversed : List Nat) : Nat :=
  reversed.foldr (fun digit total => total * 10 + digit) 0

def literal (text : NumberText) : Decimal.Literal where
  negative := text.negative
  whole := text.whole.reverse
  fraction := if text.fraction = [] then none else some text.fraction.reverse
  exponent :=
    if text.exponent = [] then none
    else
      let size : Int := digitsValue text.exponent
      some (if text.exponentNegative then -size else size)

def value? (text : NumberText) : Except ReadError Json :=
  match text.literal.value? with
  | some (.int n) => .ok (.int n)
  | some (.float x) => .ok (.float x)
  | none => .error .numberOutOfRange

/-- The number with one more character, none if the character does not continue it. -/
def push? (text : NumberText) (c : Char) : Option NumberText :=
  let digit := c.toNat - 48
  if c.isDigit then
    match text.part with
    | .sign =>
        some { text with whole := [digit], part := if digit = 0 then .zero else .whole }
    | .zero => none
    | .whole => some { text with whole := digit :: text.whole }
    | .point | .fraction => some { text with fraction := digit :: text.fraction, part := .fraction }
    | .mark | .markSign | .exponent =>
        some { text with exponent := digit :: text.exponent, part := .exponent }
  else if c = '.' then
    match text.part with
    | .zero | .whole => some { text with part := .point }
    | _ => none
  else if c = 'e' || c = 'E' then
    match text.part with
    | .zero | .whole | .fraction => some { text with part := .mark }
    | _ => none
  else if c = '+' || c = '-' then
    match text.part with
    | .mark => some { text with part := .markSign, exponentNegative := c = '-' }
    | _ => none
  else none

/-- Whether the number may end here before the character `c`. -/
def isComplete (text : NumberText) (c : Option Char) : Bool :=
  match text.part with
  | .zero => !(c.any Char.isDigit)
  | .whole | .fraction | .exponent => true
  | _ => false

end NumberText

def isBlank (c : Char) : Bool := c = ' ' || c = '\n' || c = '\t' || c = '\r'

namespace State

def start : State := ⟨.value, [], none⟩

/-- Puts a complete value where it belongs. -/
def deliver (state : State) (value : Written) : State :=
  match state.open_ with
  | [] => { state with mode := .after, result := some value }
  | .arr items :: outer => { state with mode := .after, open_ := .arr (value :: items) :: outer }
  | .obj members key :: outer =>
      { state with mode := .after, open_ := .obj ((key, value) :: members) key :: outer }

/-- Opens an array or object; at most 127 may be open. -/
def enter (state : State) (frame : Frame) (mode : Mode) : Except ReadError State :=
  if 127 ≤ state.open_.length then .error .tooDeep
  else .ok { state with mode := mode, open_ := frame :: state.open_ }

/-- Closes the innermost array or object. -/
def leave (state : State) : State :=
  match state.open_ with
  | [] => state
  | .arr items :: outer => { state with open_ := outer }.deliver (.arr items.reverse none)
  | .obj members _ :: outer => { state with open_ := outer }.deliver (.obj members.reverse none)

/-- Begins the value that starts with this character. -/
def beginValue (state : State) (c : Char) : Except ReadError State :=
  let number := fun (text : NumberText) => Except.ok { state with mode := .number text }
  let word := fun rest value => Except.ok { state with mode := .word rest value }
  if c = 'n' then word ['u', 'l', 'l'] .null
  else if c = 't' then word ['r', 'u', 'e'] (.bool true)
  else if c = 'f' then word ['a', 'l', 's', 'e'] (.bool false)
  else if c = '"' then .ok { state with mode := .string ⟨false, [], false⟩ }
  else if c = '[' then state.enter (.arr []) .firstItem
  else if c = '{' then state.enter (.obj [] "") .firstKey
  else if c = '-' then number ⟨true, [], [], false, [], .sign⟩
  else if c.isDigit then
    number ⟨false, [c.toNat - 48], [], false, [], if c = '0' then .zero else .whole⟩
  else .error .expectedValue

/-- The character after a complete value. -/
def afterValue (state : State) (c : Option Char) : Except ReadError State :=
  if c.any isBlank then .ok state
  else
    match state.open_ with
    | [] => .error .trailingCharacters
    | .arr _ :: _ =>
        if c = some ',' then .ok { state with mode := .nextItem }
        else if c = some ']' then .ok state.leave
        else .error .expectedCommaOrBracket
    | .obj _ _ :: _ =>
        if c = some ',' then .ok { state with mode := .nextKey }
        else if c = some '}' then .ok state.leave
        else .error .expectedCommaOrBrace

/-- The character inside a string. -/
def inString (state : State) (text : StringText) (c : Option Char) : Except ReadError State :=
  match c with
  | none => .ok { state with mode := .string { text with damaged := true } }
  | some c =>
      if c = '"' then
        if text.damaged then .error .badCodePoint
        else
          let whole := String.ofList text.chars.reverse
          if text.isKey then .ok { state with mode := .colon whole }
          else .ok (state.deliver (.plain (.str whole)))
      else if c = '\\' then .ok { state with mode := .escape text }
      else if c.toNat < 0x20 then .error .controlCharacter
      else .ok { state with mode := .string { text with chars := c :: text.chars } }

/-- The character after a backslash. -/
def inEscape (state : State) (text : StringText) (c : Option Char) : Except ReadError State :=
  let put := fun c => Except.ok { state with mode := .string { text with chars := c :: text.chars } }
  match c with
  | some '"' => put '"'
  | some '\\' => put '\\'
  | some '/' => put '/'
  | some 'b' => put '\x08'
  | some 'f' => put '\x0c'
  | some 'n' => put '\n'
  | some 'r' => put '\r'
  | some 't' => put '\t'
  | some 'u' => .ok { state with mode := .hex text none [] }
  | _ => .error .badEscape

def hexValue? : Option Char → Option Nat
  | none => none
  | some c =>
      if '0' ≤ c && c ≤ '9' then some (c.toNat - 48)
      else if 'A' ≤ c && c ≤ 'F' then some (c.toNat - 55)
      else if 'a' ≤ c && c ≤ 'f' then some (c.toNat - 87)
      else none

/-- The code of four hexadecimal digits that came in reverse. -/
def codeUnit? (reversed : List (Option Char)) : Option Nat :=
  reversed.foldr (fun c total => do return (← total) * 16 + (← hexValue? c)) (some 0)

/-- The character that completes an escape of four hexadecimal digits. -/
def endHex (state : State) (text : StringText) (lead : Option Nat) (unit : Option Nat) :
    Except ReadError State :=
  let put := fun code =>
    Except.ok { state with mode := .string { text with chars := Char.ofNat code :: text.chars } }
  match lead, unit with
  | _, none => .error .badEscape
  | none, some unit =>
      if 0xDC00 ≤ unit && unit ≤ 0xDFFF then .error .loneSurrogate
      else if 0xD800 ≤ unit && unit ≤ 0xDBFF then .ok { state with mode := .trail text unit }
      else put unit
  | some lead, some unit =>
      if 0xDC00 ≤ unit && unit ≤ 0xDFFF then
        put (0x10000 + (lead - 0xD800) * 0x400 + (unit - 0xDC00))
      else .error .loneSurrogate

/-- The state after one more character; `none` is a byte outside any character. -/
def step (state : State) (c : Option Char) : Except ReadError State :=
  match state.mode with
  | .value =>
      match c with
      | none => .error .expectedValue
      | some c => if isBlank c then .ok state else state.beginValue c
  | .firstItem =>
      match c with
      | none => .error .expectedValue
      | some c =>
          if isBlank c then .ok state
          else if c = ']' then .ok state.leave
          else state.beginValue c
  | .nextItem =>
      match c with
      | none => .error .expectedValue
      | some c =>
          if isBlank c then .ok state
          else if c = ']' then .error .trailingComma
          else state.beginValue c
  | .word [] value => (state.deliver (.plain value)).afterValue c
  | .word [last] value =>
      if c = some last then .ok (state.deliver (.plain value)) else .error .expectedWord
  | .word (next :: rest) value =>
      if c = some next then .ok { state with mode := .word rest value } else .error .expectedWord
  | .number text =>
      match c.bind text.push? with
      | some longer => .ok { state with mode := .number longer }
      | none =>
          if text.isComplete c then do
            let value ← text.value?
            (state.deliver (.plain value)).afterValue c
          else .error .badNumber
  | .string text => state.inString text c
  | .escape text => state.inEscape text c
  | .hex text lead digits =>
      if digits.length < 3 then .ok { state with mode := .hex text lead (c :: digits) }
      else state.endHex text lead (codeUnit? (c :: digits))
  | .trail text lead =>
      if c = some '\\' then .ok { state with mode := .trailMark text lead }
      else .error .unfinishedSurrogate
  | .trailMark text lead =>
      if c = some 'u' then .ok { state with mode := .hex text (some lead) [] }
      else .error .unfinishedSurrogate
  | .after => state.afterValue c
  | .firstKey =>
      if c.any isBlank then .ok state
      else if c = some '}' then .ok state.leave
      else if c = some '"' then .ok { state with mode := .string ⟨true, [], false⟩ }
      else .error .keyNotString
  | .nextKey =>
      if c.any isBlank then .ok state
      else if c = some '}' then .error .trailingComma
      else if c = some '"' then .ok { state with mode := .string ⟨true, [], false⟩ }
      else .error .keyNotString
  | .colon key =>
      if c.any isBlank then .ok state
      else if c = some ':' then
        match state.open_ with
        | .obj members _ :: outer =>
            .ok { state with mode := .value, open_ := .obj members key :: outer }
        | _ => .error .expectedColon
      else .error .expectedColon

/-- What the state makes of the end of the text. -/
def finish (state : State) : Except ReadError Written :=
  let ended := fun (state : State) =>
    match state.open_, state.result with
    | [], some value => Except.ok value
    | .arr _ :: _, _ => .error .endInList
    | .obj _ _ :: _, _ => .error .endInObject
    | [], none => .error .endInValue
  match state.mode with
  | .value | .nextItem | .nextKey => .error .endInValue
  | .firstItem => .error .endInList
  | .firstKey | .colon _ => .error .endInObject
  | .word _ _ => .error .endInValue
  | .number text =>
      if text.isComplete none then do
        let value ← text.value?
        ended (state.deliver (.plain value))
      else .error .endInValue
  | .string _ | .escape _ | .hex _ _ _ | .trail _ _ | .trailMark _ _ => .error .endInString
  | .after => ended state

/-- Whether a member's key has been read and its value has not. -/
def awaitsValue (state : State) : Bool :=
  match state.mode with
  | .firstItem | .nextItem | .after | .firstKey | .nextKey | .colon _ => false
  | .string text | .escape text | .hex text _ _ | .trail text _ | .trailMark text _ => !text.isKey
  | _ => true

/-- Closes everything that is open around a fault. -/
def unwind (fault : ReadError) (inner : Option Written) : List Frame → Written
  | [] => inner.getD (.broken fault)
  | .arr items :: outer =>
      let items := match inner with | some value => value :: items | none => items
      unwind fault (some (.arr items.reverse (some fault))) outer
  | .obj members key :: outer =>
      let members := match inner with | some value => (key, value) :: members | none => members
      unwind fault (some (.obj members.reverse (some fault))) outer

/-- What stood before the fault. -/
def upTo (state : State) (fault : ReadError) : Written :=
  match state.open_, state.result with
  | [], some _ => .broken fault
  | frames, _ => unwind fault (if state.awaitsValue then some (.broken fault) else none) frames

end State

/-- The outcome of reading a text: what it holds, and the fault with the number of
characters read up to and including it. -/
structure Reading where
  written : Written
  fault : Option (ReadError × Nat)

/-- Reads on from a state after `count` characters. -/
def readFrom (state : State) (count : Nat) : List (Option Char) → Reading
  | [] =>
      match state.finish with
      | .ok written => ⟨written, none⟩
      | .error fault => ⟨state.upTo fault, some (fault, count)⟩
  | c :: rest =>
      match state.step c with
      | .ok next => readFrom next (count + 1) rest
      | .error fault =>
          let seen := if fault = .numberOutOfRange then count else count + 1
          match state.result, fault with
          | some whole, .trailingCharacters => ⟨whole, some (fault, seen)⟩
          | _, _ => ⟨state.upTo fault, some (fault, seen)⟩

def readChars (chars : List (Option Char)) : Reading :=
  readFrom State.start 0 chars

mutual

/-- The value of a written text, keys in order and of repeated keys the last. -/
def ofWritten : Written → Except ReadError Json
  | .plain value => .ok value
  | .arr items fault => do
      let items ← ofWrittenItems items
      match fault with
      | none => .ok (.arr items)
      | some fault => .error fault
  | .obj members fault => do
      let members ← ofWrittenMembers members
      match fault with
      | none => .ok (ofMembers members)
      | some fault => .error fault
  | .broken fault => .error fault

def ofWrittenItems : List Written → Except ReadError (List Json)
  | [] => .ok []
  | item :: rest => do
      let item ← ofWritten item
      let rest ← ofWrittenItems rest
      return item :: rest

def ofWrittenMembers : List (String × Written) → Except ReadError (List (String × Json))
  | [] => .ok []
  | (key, value) :: rest => do
      let value ← ofWritten value
      let rest ← ofWrittenMembers rest
      return (key, value) :: rest

end

/-- A place in a text: lines from one, columns in bytes. -/
structure Position where
  line : Nat
  column : Nat
  deriving DecidableEq, Repr

namespace Position

def advance (position : Position) (c : Option Char) : Position :=
  match c with
  | some '\n' => ⟨position.line + 1, 0⟩
  | some c => ⟨position.line, position.column + c.utf8Size⟩
  | none => ⟨position.line, position.column + 1⟩

/-- The place right behind these characters; behind a line break a new line has begun. -/
def after (chars : List (Option Char)) : Position :=
  chars.foldl advance ⟨1, 0⟩

end Position

/-- Why and where a text is not JSON. -/
structure SyntaxFault where
  cause : ReadError
  position : Position
  deriving DecidableEq, Repr

namespace SyntaxFault

def message (fault : SyntaxFault) : String :=
  s!"{fault.cause.message} at line {fault.position.line} column {fault.position.column}"

end SyntaxFault

/-- The value of a text, with byte holes. -/
def parseChars (chars : List (Option Char)) : Except SyntaxFault Json :=
  let reading := readChars chars
  match reading.fault, ofWritten reading.written with
  | none, .ok value => .ok value
  | none, .error cause => .error ⟨cause, Position.after chars⟩
  | some (cause, count), _ => .error ⟨cause, Position.after (chars.take count)⟩

/-- The value that the bytes of a text stand for. -/
def parse (bytes : List UInt8) : Except SyntaxFault Json :=
  parseChars (Text.Utf8.decode bytes)

/-- The value of a text. -/
def parseText (text : String) : Except SyntaxFault Json :=
  parseChars (text.toList.map some)

end RunBoard.Json
