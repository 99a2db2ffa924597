import RunBoard.Decimal.Layout
import RunBoard.Json.Value
import RunBoard.Text.Digits

/-!
# Printing JSON

The compact form has no blanks at all. The indented form puts every item and member on a
line of its own, two blanks deeper than what holds it; what is empty stays on one line.
-/

namespace RunBoard.Json

/-- One character inside quotes. -/
def escape (c : Char) : List Char :=
  if c = '"' then ['\\', '"']
  else if c = '\\' then ['\\', '\\']
  else if c = '\x08' then ['\\', 'b']
  else if c = '\x0c' then ['\\', 'f']
  else if c = '\n' then ['\\', 'n']
  else if c = '\r' then ['\\', 'r']
  else if c = '\t' then ['\\', 't']
  else if c.toNat < 0x20 then
    ['\\', 'u', '0', '0', Text.Hex.digit (c.toNat / 16), Text.Hex.digit (c.toNat % 16)]
  else [c]

def quoted (text : String) : List Char :=
  '"' :: (text.toList.flatMap escape ++ ['"'])

def integer (n : Int) : List Char :=
  if n < 0 then '-' :: Nat.toDigits 10 n.natAbs else Nat.toDigits 10 n.natAbs

/-- A value that is neither an array nor an object. -/
def scalar : Json → List Char
  | .null => ['n', 'u', 'l', 'l']
  | .bool true => ['t', 'r', 'u', 'e']
  | .bool false => ['f', 'a', 'l', 's', 'e']
  | .int n => integer n
  | .float x => Decimal.Layout.json.write x
  | .str text => quoted text
  | .arr _ => []
  | .obj _ => []

mutual

def compactChars : Json → List Char
  | .arr items => '[' :: (compactItems items ++ [']'])
  | .obj members => '{' :: (compactMembers members ++ ['}'])
  | plain => plain.scalar

def compactItems : List Json → List Char
  | [] => []
  | [item] => compactChars item
  | item :: rest => compactChars item ++ ',' :: compactItems rest

def compactMembers : List (String × Json) → List Char
  | [] => []
  | [(key, value)] => quoted key ++ ':' :: compactChars value
  | (key, value) :: rest => quoted key ++ ':' :: (compactChars value ++ ',' :: compactMembers rest)

end

/-- The text of a value without blanks. -/
def compact (json : Json) : String :=
  String.ofList json.compactChars

/-- A line break and the indentation of this depth. -/
def lineBreak (depth : Nat) : List Char :=
  '\n' :: List.replicate (2 * depth) ' '

mutual

def indentedChars (depth : Nat) : Json → List Char
  | .arr [] => ['[', ']']
  | .obj [] => ['{', '}']
  | .arr items => '[' :: (indentedItems (depth + 1) items ++ lineBreak depth ++ [']'])
  | .obj members => '{' :: (indentedMembers (depth + 1) members ++ lineBreak depth ++ ['}'])
  | plain => plain.scalar

def indentedItems (depth : Nat) : List Json → List Char
  | [] => []
  | [item] => lineBreak depth ++ indentedChars depth item
  | item :: rest => lineBreak depth ++ indentedChars depth item ++ ',' :: indentedItems depth rest

def indentedMembers (depth : Nat) : List (String × Json) → List Char
  | [] => []
  | [(key, value)] => lineBreak depth ++ quoted key ++ ':' :: ' ' :: indentedChars depth value
  | (key, value) :: rest =>
      lineBreak depth ++ quoted key ++ ':' :: ' ' :: (indentedChars depth value ++
        ',' :: indentedMembers depth rest)

end

/-- The text of a value, indented by two blanks a level. -/
def indented (json : Json) : String :=
  String.ofList (json.indentedChars 0)

end RunBoard.Json
