import RunBoard.Text.Classes
import RunBoard.Time.Timestamp

/-!
# The console

The user, at the other end of a terminal, and the clock on the wall.
-/

namespace RunBoard.Command

structure Console (m : Type → Type) where
  print : String → m Unit
  warn : String → m Unit
  /-- The next line, with the line break that ends it. -/
  readLine : m String
  now : m Timestamp
  /-- Waits so many milliseconds. -/
  pause : Nat → m Unit

namespace Console

variable {m : Type → Type} [Monad m]

def printLine (console : Console m) (text : String) : m Unit := console.print (text ++ "\n")

/-- Whether the user agrees. -/
def confirm (console : Console m) (question : String) : m Bool := do
  console.print s!"{question} [y/N] "
  let answer ← console.readLine
  return ["y", "Y", "yes"].contains (Text.trim answer)

/-- A line without the break at its end. -/
def withoutBreak (line : String) : String :=
  String.ofList ((line.toList.reverse.dropWhile fun c => c = '\r' || c = '\n').reverse)

end Console

end RunBoard.Command
