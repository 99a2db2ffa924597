import RunBoard.Time.Timestamp
import RunBoard.Wire.Schema

/-!
# Scalars of the wire format

A floating point number may be written as an integer, but never an integer as a floating
point number. Times are counts of milliseconds.
-/

namespace RunBoard.Wire

namespace Scalar

def text : Scalar String where
  read
    | .str value => .ok value
    | other => .error (.mistyped other .text)
  write := .str

/-- The path of a file. -/
def path : Scalar String where
  read
    | .str value => .ok value
    | other => .error (.mistyped other .path)
  write := .str

def boolean : Scalar Bool where
  read
    | .bool value => .ok value
    | other => .error (.mistyped other .boolean)
  write := .bool

/-- The binary64 nearest to an integer of at most 64 bits. -/
def floatOfInt (value : Int) : Float :=
  if value < 0 then -(UInt64.ofNat value.natAbs).toFloat
  else (UInt64.ofNat value.natAbs).toFloat

def float : Scalar Float where
  read
    | .float value => .ok value
    | .int value => .ok (floatOfInt value)
    | other => .error (.mistyped other .float)
  write := .float

/-- Integers between two bounds. -/
def bounded {α : Type} (name : String) (least greatest : Int) (ofInt : Int → α)
    (toInt : α → Int) : Scalar α where
  read
    | .int value =>
        if least ≤ value && value ≤ greatest then .ok (ofInt value)
        else .error (.wrongValue (.int value) (.width name))
    | other => .error (.mistyped other (.width name))
  write value := .int (toInt value)

def uint8 : Scalar UInt8 :=
  bounded "u8" 0 255 (fun n => UInt8.ofNat n.toNat) (fun n => n.toNat)

def uint32 : Scalar UInt32 :=
  bounded "u32" 0 4294967295 (fun n => UInt32.ofNat n.toNat) (fun n => n.toNat)

def uint64 : Scalar UInt64 :=
  bounded "u64" 0 18446744073709551615 (fun n => UInt64.ofNat n.toNat) (fun n => n.toNat)

def int32 : Scalar Int32 :=
  bounded "i32" (-2147483648) 2147483647 Int32.ofInt Int32.toInt

def int64 : Scalar Int64 :=
  bounded "i64" (-9223372036854775808) 9223372036854775807 Int64.ofInt Int64.toInt

def time : Scalar Timestamp where
  read
    | .int value =>
        match Timestamp.ofMillis? value with
        | some time => .ok time
        | none => .error (.illegalTime value)
    | other => .error (.mistyped other .time)
  write time := .int time.millis

end Scalar

namespace Schema

def text : Schema String := .scalar .text

def boolean : Schema Bool := .scalar .boolean

def float : Schema Float := .scalar .float

def time : Schema Timestamp := .scalar .time

/-- An enumeration by the names of its values. -/
def enumeration {α : Type} (values : List α) (nameOf : α → String) : Schema α :=
  .names (values.map fun value => (nameOf value, value)) nameOf

end Schema

namespace Fields

/-- A field that has to be there. -/
def required {α γ σ : Type} (name : String) (schema : Schema α) (rest : Fields γ σ) :
    Fields (α × γ) (Option α × σ) :=
  .field name .required schema rest

/-- A field that has a value of its own when it is not there. -/
def defaulting {α γ σ : Type} (name : String) (value : α) (schema : Schema α)
    (rest : Fields γ σ) : Fields (α × γ) (Option α × σ) :=
  .field name (.defaulting value) schema rest

/-- A field that may be null or not there. -/
def optional {α γ σ : Type} (name : String) (schema : Schema α) (rest : Fields γ σ) :
    Fields (Option α × γ) (Option (Option α) × σ) :=
  .field name (.defaulting none) (.optional schema) rest

end Fields

end RunBoard.Wire
