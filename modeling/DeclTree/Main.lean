import DeclTree.CommandLine.Run
import DeclTree.Files.Snapshot
import DeclTree.Json.Reader

/-!
# The command

The command line is run in the directory whose snapshot stands on standard input. What was found is
printed; an error goes to standard error with exit status 1, and a command line that is none gives
exit status 2.
-/

namespace DeclTree

/-- The directory to run in. -/
def readDirectory : IO (Option OrderedTree) := do
  let text ← (← IO.getStdin).readToEnd
  pure ((Json.parse? text).bind Snapshot.directory?)

end DeclTree

open DeclTree in
def main (arguments : List String) : IO UInt32 := do
  match CommandLine.parse? arguments with
  | none =>
    IO.eprintln "error: invalid command line"
    return 2
  | some a =>
    match ← readDirectory with
    | none =>
      IO.eprintln "Error: no snapshot of a directory on standard input"
      return 1
    | some whole =>
      match a.run whole.tree with
      | .ok output =>
        IO.print output
        return 0
      | .error e =>
        IO.eprintln ("Error: " ++ e.message)
        return 1
