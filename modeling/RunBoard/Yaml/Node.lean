import RunBoard.Text.Digits

/-!
# YAML nodes

A YAML document as a tree. A scalar keeps its text and whether it was written plainly:
only plain text can stand for something other than itself.
-/

namespace RunBoard.Yaml

inductive Node where
  | scalar (isPlain : Bool) (text : List Char)
  | sequence (items : List Node)
  | mapping (entries : List (Node × Node))
  deriving Inhabited

namespace Node

/-- A node where nothing is written. -/
def nothing : Node := scalar true []

end Node

/-! ## What plain text stands for -/

/-- Text that stands for no value. -/
def isNull (text : List Char) : Bool :=
  ["null", "Null", "NULL", "~"].contains (String.ofList text)

/-- Text that stands for a truth value. -/
def isBoolean (text : List Char) : Bool :=
  ["true", "True", "TRUE", "false", "False", "FALSE"].contains (String.ofList text)

/-- Zeros before other digits make no number. -/
def isDigitsOnly (text : List Char) : Bool :=
  let unsigned := if text.head? = some '-' || text.head? = some '+' then text.drop 1 else text
  match unsigned with
  | '0' :: c :: rest => (c :: rest).all Char.isDigit
  | _ => false

def withoutPlus : List Char → List Char
  | '+' :: rest => rest
  | text => text

/-- The natural number that a text stands for: decimal, or in the base that it begins with. -/
def natural? (text : List Char) : Option Nat :=
  match withoutPlus text with
  | '0' :: 'x' :: rest => Text.number? 16 rest
  | '0' :: 'o' :: rest => Text.number? 8 rest
  | '0' :: 'b' :: rest => Text.number? 2 rest
  | rest => if isDigitsOnly text then none else Text.number? 10 rest

/-- The exponent of a decimal: nothing, or a mark with signed digits. -/
def exponent? : List Char → Option Int
  | [] => some 0
  | mark :: rest =>
      if mark = 'e' || mark = 'E' then
        match rest with
        | '-' :: digits => (Text.number? 10 digits).map fun n => -(n : Int)
        | '+' :: digits => (Text.number? 10 digits).map Int.ofNat
        | digits => (Text.number? 10 digits).map Int.ofNat
      else none

/-- The float nearest to `mantissa` times a power of ten. A power that leaves every float
behind counts as one that just does. -/
def scaled (mantissa : Nat) (power : Int) : Float :=
  if mantissa = 0 then 0
  else
    let bounded := max (-100000) (min 100000 power)
    if bounded < 0 then Float.ofScientific mantissa true bounded.natAbs
    else Float.ofScientific mantissa false bounded.natAbs

/-- The float that a decimal without sign is nearest to. -/
def decimal? (text : List Char) : Option Float := do
  let whole := text.takeWhile Char.isDigit
  let rest := text.dropWhile Char.isDigit
  let (fraction, rest) :=
    match rest with
    | '.' :: behind => (behind.takeWhile Char.isDigit, behind.dropWhile Char.isDigit)
    | rest => ([], rest)
  let mantissa ← Text.number? 10 (whole ++ fraction)
  let exponent ← exponent? rest
  return scaled mantissa (exponent - fraction.length)

/-- The float that a text stands for. Words for infinity and for no number count, a decimal
that is beyond every float does not. -/
def float? (text : List Char) : Option Float :=
  if [".inf", ".Inf", ".INF", "+.inf", "+.Inf", "+.INF"].contains (String.ofList text) then
    some (1.0 / 0.0)
  else if ["-.inf", "-.Inf", "-.INF"].contains (String.ofList text) then some (-1.0 / 0.0)
  else if [".nan", ".NaN", ".NAN"].contains (String.ofList text) then some (0.0 / 0.0)
  else
    let value :=
      match text with
      | '-' :: rest => (decimal? rest).map fun x => -x
      | '+' :: rest => decimal? rest
      | rest => decimal? rest
    value.filter Float.isFinite

end RunBoard.Yaml
