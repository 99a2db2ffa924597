/-!
# Punycode

The letters-and-digits form of a domain label with characters outside of ASCII: the ASCII
characters first, then a distance for every other character, in ascending order. A distance
counts the places that are passed over, code by code, up to the place where the character is
inserted. It is written in digits of base 36 whose weights adapt to the distances so far.
-/

namespace RunBoard.Url.Punycode

/-! ## Digits -/

/-- Base-36 digits: letters first. -/
def digit (n : Nat) : Char :=
  if n < 26 then Char.ofNat (97 + n) else Char.ofNat (22 + n)

def digitValue? (c : Char) : Option Nat :=
  if 'a' ≤ c && c ≤ 'z' then some (c.toNat - 97)
  else if c.isDigit then some (c.toNat - 22)
  else none

/-- The digit at position `k` from which on a digit is not the last of its distance. -/
def threshold (k bias : Nat) : Nat := max 1 (min 26 (k - bias))

theorem threshold_pos (k bias : Nat) : 0 < threshold k bias := by
  unfold threshold
  omega

/-- A distance as digits of growing weight, from position `k` on. -/
def digitsOf (bias k distance : Nat) : List Char :=
  let t := threshold k bias
  if distance < t then [digit distance]
  else
    digit (t + (distance - t) % (36 - t)) ::
      digitsOf bias (k + 36) ((distance - t) / (36 - t))
termination_by distance
decreasing_by
  have shrinks := Nat.div_le_self (distance - threshold k bias) (36 - threshold k bias)
  have positive := threshold_pos k bias
  omega

/-- Scales a distance down; counts the steps in units of 36. -/
def scale (k distance : Nat) : Nat :=
  if 455 < distance then scale (k + 36) (distance / 35)
  else k + 36 * distance / (distance + 38)
termination_by distance
decreasing_by omega

/-- The bias that a distance leaves, in a label that then has `count` characters. The first
distance of a label is damped, because it has to reach the alphabet. -/
def adapt (distance count : Nat) (isFirst : Bool) : Nat :=
  let damped := if isFirst then distance / 700 else distance / 2
  scale 0 (damped + damped / count)

/-! ## Insertions -/

/-- Where the next character may go: behind the last one that was inserted, in a label that
has `count` characters. -/
structure Cursor where
  code : Nat
  place : Nat
  count : Nat
  bias : Nat
  deriving DecidableEq, Repr

namespace Cursor

def ofCount (count : Nat) : Cursor := ⟨128, 0, count, 72⟩

/-- How many places lie before this one of this code. Each code has one place more than the
label has characters. -/
def distanceTo (cursor : Cursor) (code place : Nat) : Nat :=
  (code - cursor.code) * (cursor.count + 1) + place - cursor.place

/-- The code and the place that a distance leads to. -/
def reach (cursor : Cursor) (distance : Nat) : Nat × Nat :=
  let reached := cursor.place + distance
  (cursor.code + reached / (cursor.count + 1), reached % (cursor.count + 1))

/-- The cursor behind a character that has been inserted. -/
def past (cursor : Cursor) (code place : Nat) : Cursor :=
  let count := cursor.count + 1
  ⟨code, place + 1, count, adapt (cursor.distanceTo code place) count (cursor.place = 0)⟩

end Cursor

/-- The codes outside of ASCII, ascending and each once. -/
def codes (label : List Char) : List Nat :=
  let all := (label.map Char.toNat).filter fun code => 128 ≤ code
  (all.mergeSort (fun a b => decide (a ≤ b))).eraseDups

/-- The places at which the characters of a code are inserted, into a label of the characters
with smaller codes; `before` counts these up to here. -/
def places (code before : Nat) : List Char → List Nat
  | [] => []
  | c :: rest =>
      if c.toNat < code then places code (before + 1) rest
      else if c.toNat = code then before :: places code (before + 1) rest
      else places code before rest

/-- The characters to insert and their places, in order. -/
def insertions (label : List Char) : List (Nat × Nat) :=
  (codes label).flatMap fun code => (places code 0 label).map fun place => (code, place)

/-! ## Writing -/

def writeFrom (cursor : Cursor) : List (Nat × Nat) → List Char
  | [] => []
  | (code, place) :: rest =>
      digitsOf cursor.bias 36 (cursor.distanceTo code place) ++
        writeFrom (cursor.past code place) rest

/-- The Punycode of a label. -/
def encode (label : List Char) : List Char :=
  let basic := label.filter fun c => c.toNat < 128
  let start := if basic.isEmpty then [] else basic ++ ['-']
  start ++ writeFrom (Cursor.ofCount basic.length) (insertions label)

/-! ## Reading -/

/-- A label of which some distances have been read, and the distance that is being read: the
position and the weight of its next digit, and its value so far. -/
structure Reading where
  label : List Char
  cursor : Cursor
  position : Nat
  weight : Nat
  value : Nat

def Reading.ofLabel (label : List Char) (cursor : Cursor) : Reading := ⟨label, cursor, 36, 1, 0⟩

/-- Inserts the character at the end of a distance. -/
def Reading.insert? (reading : Reading) (distance : Nat) : Option Reading :=
  let (code, place) := reading.cursor.reach distance
  if code.isValidChar then
    some (.ofLabel (reading.label.insertIdx place (Char.ofNat code))
      (reading.cursor.past code place))
  else none

/-- Reads one digit; a digit below the threshold is the last of its distance. -/
def Reading.next? (reading : Reading) (c : Char) : Option Reading := do
  let digit ← digitValue? c
  let value := reading.value + digit * reading.weight
  let t := threshold reading.position reading.cursor.bias
  if digit < t then reading.insert? value
  else
    some { reading with
      position := reading.position + 36, weight := reading.weight * (36 - t), value }

/-- The label of a Punycode: what stands before its last hyphen, with the characters that
the digits behind it insert. -/
def decode? (text : List Char) : Option (List Char) := do
  let digits := (text.reverse.takeWhile (· ≠ '-')).reverse
  let basic := (text.take (text.length - digits.length)).dropLast
  let reading ← digits.foldlM Reading.next? (.ofLabel basic (Cursor.ofCount basic.length))
  if reading.position = 36 then some reading.label else none

end RunBoard.Url.Punycode
