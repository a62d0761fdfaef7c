/-
# Main -- the command

Prints what a run of the command line leaves and ends with its code.
-/
import DynamicMessage.CommandLine.Run

/-- Runs the words after the program's name. -/
def main (words : List String) : IO UInt32 := do
  let finished := DynamicMessage.CommandLine.run words
  IO.print finished.stdout
  IO.eprint finished.stderr
  return finished.code.toUInt32
