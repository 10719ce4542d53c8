import Tabletop.CommandLine

/-!
The program: it rolls with faces drawn at random and prints what the command line asks for.
-/

open Tabletop in
def main (arguments : List String) : IO UInt32 := do
  let seed ← IO.rand 0 (UInt64.size - 1)
  let printed := (Command.read {} (arguments.map String.toList)).run (Faces.seeded seed.toUInt64)
  (← IO.getStdout).putStr (String.ofList printed.output)
  (← IO.getStderr).putStr (String.ofList printed.complaint)
  return printed.exitCode.toUInt32
