/-!
# Points in time and spans between them

A point in time is a count of milliseconds since the beginning of 1970 in UTC, within the
range of calendar years that a date can be written for.
-/

namespace RunBoard

/-- The milliseconds of the first and the last legal point in time. -/
def Timestamp.least : Int := -8334601228800000

def Timestamp.greatest : Int := 8210266876799999

structure Timestamp where
  millis : Int
  least_le : Timestamp.least ≤ millis
  le_greatest : millis ≤ Timestamp.greatest
  deriving DecidableEq

namespace Timestamp

/-- The point in time with this count, if it is legal. -/
def ofMillis? (millis : Int) : Option Timestamp :=
  if h : least ≤ millis ∧ millis ≤ greatest then some ⟨millis, h.1, h.2⟩ else none

theorem eq_of_millis {first second : Timestamp} (same : first.millis = second.millis) :
    first = second := by
  cases first
  cases second
  cases same
  rfl

theorem ofMillis?_millis (time : Timestamp) : ofMillis? time.millis = some time := by
  simp [ofMillis?, time.least_le, time.le_greatest]

/-- The beginning of 1970. -/
def epoch : Timestamp := ⟨0, by decide, by decide⟩

instance : Inhabited Timestamp := ⟨epoch⟩

/-- Earlier before later. -/
def before (first second : Timestamp) : Bool := decide (first.millis < second.millis)

end Timestamp

/-- A signed length of time in milliseconds. -/
structure Span where
  millis : Int
  deriving DecidableEq, Repr, Inhabited

namespace Span

/-- The time from one point to another. -/
def between (start finish : Timestamp) : Span := ⟨finish.millis - start.millis⟩

/-- Between legal points a span stays within 64 bits. -/
theorem between_fits (start finish : Timestamp) :
    -9223372036854775808 ≤ (between start finish).millis ∧
      (between start finish).millis < 9223372036854775808 := by
  have a := start.least_le
  have b := start.le_greatest
  have c := finish.least_le
  have d := finish.le_greatest
  simp only [Timestamp.least, Timestamp.greatest] at a b c d
  simp only [between]
  omega

end Span

end RunBoard
