import RunBoard.Decimal.Layout
import RunBoard.Yaml.Node

/-!
# Writing YAML

A mapping from names to scalars, one entry a line. A text is written plainly where it then
reads as itself, and else in the first of these styles that can hold it: as a block when it
has several lines, in single quotes, in double quotes.
-/

namespace RunBoard.Yaml

/-! ## What a text is like -/

/-- Words that some readers take for truth values. -/
def isYesOrNo (text : List Char) : Bool :=
  isBoolean text ||
    ["y", "Y", "yes", "Yes", "YES", "n", "N", "no", "No", "NO", "on", "On", "ON", "off", "Off",
      "OFF"].contains (String.ofList text)

def isNegativeInBase : List Char → Bool
  | '-' :: rest => rest.head? = some '0' && (natural? rest).isSome
  | _ => false

/-- Whether plain text would be read as something other than a text. -/
def isTakenForOther (text : List Char) : Bool :=
  text.isEmpty || isNull text || isYesOrNo text || (natural? text).isSome ||
    isNegativeInBase text || isDigitsOnly text || (float? text).isSome

def isPrintable (c : Char) : Bool :=
  c = '\n' || (0x20 ≤ c.toNat && c.toNat ≤ 0x7e) ||
    (0xa0 ≤ c.toNat && c ≠ '\ufeff' && c ≠ '\ufffe' && c ≠ '\uffff' && c ≠ '\u2028' &&
      c ≠ '\u2029')

def hasSpecial (text : List Char) : Bool := text.any fun c => !isPrintable c

/-- Every character with the one before and the text behind it. -/
def inContext (before : Option Char) : List Char → List (Option Char × Char × List Char)
  | [] => []
  | c :: rest => (before, c, rest) :: inContext (some c) rest

def isBlankChar (c : Char) : Bool := c = ' ' || c = '\t' || c = '\n'

def endsWord : List Char → Bool
  | [] => true
  | c :: _ => isBlankChar c

/-- Whether a character means something where it stands. -/
def isIndicator (place : Option Char × Char × List Char) : Bool :=
  match place with
  | (none, c, rest) =>
      "#,[]\x7b\x7d&*!|>'\"%@`".contains c ||
        ((c = '?' || c = ':' || c = '-') && endsWord rest)
  | (some before, c, rest) => (c = ':' && endsWord rest) || (c = '#' && isBlankChar before)

def hasIndicator (text : List Char) : Bool :=
  ["---", "..."].contains (String.ofList (text.take 3)) || (inContext none text).any isIndicator

/-- Whether a blank stands before (or behind) a line break. -/
def hasPair (first second : Char) (text : List Char) : Bool :=
  (text.zip (text.drop 1)).any fun pair => pair.1 = first && pair.2 = second

def edgeIs (test : Char → Bool) (text : List Char) : Bool :=
  text.head?.any test || text.getLast?.any test

inductive ScalarStyle where
  | plain
  | literal
  | single
  | double
  deriving DecidableEq, Repr

/-- The style that a text is written in. -/
def styleOf (text : List Char) : ScalarStyle :=
  if hasSpecial text || hasPair ' ' '\n' text then .double
  else if text.contains '\n' then
    if text.getLast? = some ' ' then .double else .literal
  else if isTakenForOther text || edgeIs (· = ' ') text || hasIndicator text then .single
  else .plain

/-! ## Styles -/

def single (text : List Char) : List Char :=
  let doubled := text.flatMap fun c => if c = '\'' then ['\'', '\''] else [c]
  '\'' :: (doubled ++ ['\''])

def hexDigits (width n : Nat) : List Char :=
  let digits := (Nat.toDigits 16 n).map Char.toUpper
  List.replicate (width - digits.length) '0' ++ digits

def escapeChar (c : Char) : List Char :=
  match c with
  | '\x00' => ['\\', '0']
  | '\x07' => ['\\', 'a']
  | '\x08' => ['\\', 'b']
  | '\t' => ['\\', 't']
  | '\n' => ['\\', 'n']
  | '\x0b' => ['\\', 'v']
  | '\x0c' => ['\\', 'f']
  | '\r' => ['\\', 'r']
  | '\x1b' => ['\\', 'e']
  | '"' => ['\\', '"']
  | '\\' => ['\\', '\\']
  | '\u0085' => ['\\', 'N']
  | '\u2028' => ['\\', 'L']
  | '\u2029' => ['\\', 'P']
  | c =>
      if isPrintable c then [c]
      else if c.toNat ≤ 0xff then '\\' :: 'x' :: hexDigits 2 c.toNat
      else if c.toNat ≤ 0xffff then '\\' :: 'u' :: hexDigits 4 c.toNat
      else '\\' :: 'U' :: hexDigits 8 c.toNat

def double (text : List Char) : List Char := '"' :: (text.flatMap escapeChar ++ ['"'])

/-- The indentation of a block, told when the block begins with a blank. -/
def indentMark (text : List Char) : List Char :=
  if text.head?.any fun c => c = ' ' || c = '\n' then ['2'] else []

/-- What becomes of the line breaks at the end of a block. -/
def endMark (text : List Char) : List Char :=
  match text.reverse with
  | ['\n'] => ['+']
  | '\n' :: '\n' :: _ => ['+']
  | '\n' :: _ => []
  | _ => ['-']

/-- The lines of a block, each that is not empty indented. -/
def blockLine (line : List Char) : List Char :=
  '\n' :: (if line.isEmpty then [] else ' ' :: ' ' :: line)

def literal (text : List Char) : List Char :=
  let lines := text.splitOn '\n'
  let lines := if text.getLast? = some '\n' then lines.dropLast else lines
  '|' :: (indentMark text ++ endMark text ++ lines.flatMap blockLine)

def writeText (text : String) : List Char :=
  let chars := text.toList
  match styleOf chars with
  | .plain => chars
  | .literal => literal chars
  | .single => single chars
  | .double => double chars

/-- A float, in a form that does not read as an integer. -/
def writeFloat (x : Float) : List Char := Decimal.Layout.plainExponent.write x

def writeNull : List Char := ['n', 'u', 'l', 'l']

/-- A mapping from names to written scalars. -/
def writeMapping (entries : List (String × List Char)) : String :=
  String.ofList (entries.flatMap fun entry => entry.1.toList ++ [':', ' '] ++ entry.2 ++ ['\n'])

end RunBoard.Yaml
