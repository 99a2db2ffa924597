import RunBoard.Machine

/-!
# The command line program
-/

def main (arguments : List String) : IO UInt32 := do
  (← RunBoard.Machine.shell).run arguments
