import RunBoard.Decimal.Shortest

/-!
# Decimal layout

How the shortest digits of a number are laid out: positionally while the leading digit
stands between two bounds, and with a power of ten otherwise.
-/

namespace RunBoard.Decimal

/-- The decisions of one number format. `least` and `limit` bound the exponent of the
leading digit in positional form; without them the form is always positional. -/
structure Layout where
  least : Option Int
  limit : Option Int
  /-- Whether a whole number still carries a fraction digit. -/
  pointZero : Bool
  /-- The mark between digits and a positive exponent. -/
  upMark : String
  downMark : String

namespace Layout

/-- A whole number keeps its point; from `1e+16` on and below `1e-5` a power of ten is
written, with its sign. -/
def json : Layout := ⟨some (-5), some 16, true, "e+", "e-"⟩

/-- As in `json`, but a positive exponent has no sign. -/
def plainExponent : Layout := ⟨some (-5), some 16, true, "e", "e-"⟩

/-- Never a power of ten, and no point after a whole number. -/
def positional : Layout := ⟨none, none, false, "", ""⟩

def isPositional (format : Layout) (leading : Int) : Bool :=
  (match format.least with | some least => decide (least ≤ leading) | none => true) &&
    (match format.limit with | some limit => decide (leading < limit) | none => true)

/-- Digits with the point set among, before or after them. -/
def placed (format : Layout) (digits : List Char) (exponent : Int) : List Char :=
  let count : Int := digits.length
  if 0 ≤ exponent then
    digits ++ List.replicate exponent.toNat '0' ++ (if format.pointZero then ['.', '0'] else [])
  else if 0 < count + exponent then
    let whole := (count + exponent).toNat
    digits.take whole ++ '.' :: digits.drop whole
  else
    '0' :: '.' :: (List.replicate (-(count + exponent)).toNat '0' ++ digits)

/-- One digit, the others after a point, and the power of ten of the first. -/
def scientific (format : Layout) (digits : List Char) (leading : Int) : List Char :=
  let mantissa :=
    match digits with
    | first :: second :: rest => first :: '.' :: second :: rest
    | short => short
  let mark := if leading < 0 then format.downMark else format.upMark
  mantissa ++ mark.toList ++ Nat.toDigits 10 leading.natAbs

def unsigned (format : Layout) (digits : Digits) : List Char :=
  let chars := Nat.toDigits 10 digits.mantissa
  let leading := digits.exponent + chars.length - 1
  if format.isPositional leading then format.placed chars digits.exponent
  else format.scientific chars leading

/-- The text of a finite number; a zero keeps its sign. -/
def write (format : Layout) (x : Float) : List Char :=
  let sign := if isNegative x.toBits then ['-'] else []
  match shortest? x with
  | some digits => sign ++ format.unsigned digits
  | none => sign ++ '0' :: (if format.pointZero then ['.', '0'] else [])

end Layout

end RunBoard.Decimal
