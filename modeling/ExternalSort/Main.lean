import ExternalSort.CommandLine.Report

/-!
# The program

Prints what a run leaves behind and exits with its code.
-/

/-- Runs the program on the arguments of the command line. -/
def main (arguments : List String) : IO UInt32 := do
  let outcome := ExternalSort.CommandLine.run arguments
  (← IO.getStdout).putStr outcome.stdout
  (← IO.getStderr).putStr outcome.stderr
  return UInt32.ofNat outcome.exitCode
