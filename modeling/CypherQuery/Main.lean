/-
**The program.**

It reads files and the variables of its surroundings, and writes what a run ends with.
-/

import CypherQuery.CommandLine.Compile

set_option autoImplicit false

namespace CypherQuery.CommandLine

/-- The content of a file, if it can be read. -/
def readFile? (name : String) : IO (Option String) := do
  try
    return some (← IO.FS.readFile name)
  catch _ =>
    return none

/-- A run with files and variables of the system. -/
def runInSystem (arguments : List String) : IO Finished := do
  let namePrefix ← IO.getEnv BuildConfig.namePrefixVariable
  let labelOperator ← IO.getEnv BuildConfig.labelOperatorVariable
  let getEnv? (name : String) : Option String :=
    if name = BuildConfig.namePrefixVariable then namePrefix
    else if name = BuildConfig.labelOperatorVariable then labelOperator
    else none
  run readFile? getEnv? arguments

end CypherQuery.CommandLine

/-- The program. -/
def main (arguments : List String) : IO UInt32 := do
  let finished ← CypherQuery.CommandLine.runInSystem arguments
  IO.print finished.output
  unless finished.error.isEmpty do
    IO.eprintln finished.error
  return finished.status.toUInt32
