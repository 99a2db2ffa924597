import RunBoard.View.Standard

/-!
# Following a log

A follower prints log lines as they come and watches the run beside. When the node can
write no more, the log is read once more as a whole, and what has not been printed yet is
printed. The states that the two views show arrive in any order, and some may be missed.
-/

namespace RunBoard

open Load

structure LogFollower where
  target : LogTarget
  /-- How many lines have been printed. -/
  printed : Nat
  /-- Whether the log is being read for the last time. -/
  isLast : Bool
  isDone : Bool
  deriving DecidableEq, Repr

namespace LogFollower

inductive Event where
  | lines (state : LoadState (List LogLine))
  | run (state : LoadState Run)

/-- What a follower wants done. -/
inductive Effect where
  | print (lines : List LogLine)
  | warn (notice : Notice)
  /-- The tail shall read the whole log once more and then stop. -/
  | readLast (target : LogTarget)

def start (target : LogTarget) : LogFollower := ⟨target, 0, false, false⟩

/-- The target, no longer followed. -/
def lastTarget (follower : LogFollower) : LogTarget := { follower.target with follow := false }

def step (follower : LogFollower) (event : Event) : LogFollower × List Effect :=
  if follower.isDone then (follower, []) else
  match event with
  | .lines (.loaded lines) =>
      ({ follower with
          printed := max follower.printed lines.length
          isDone := follower.isLast },
        [.print (lines.drop follower.printed)])
  | .lines (.failed notice) => (follower, [.warn notice])
  | .run (.loaded run) =>
      if follower.isLast || follower.target.isLive run then (follower, [])
      else ({ follower with isLast := true }, [.readLast follower.lastTarget])
  | _ => (follower, [])

/-- The lines among some effects. -/
def printedLines : List Effect → List LogLine
  | [] => []
  | .print lines :: rest => lines ++ printedLines rest
  | _ :: rest => printedLines rest

end LogFollower

end RunBoard
