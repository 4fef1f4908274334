import DeclTree.Text.Split

/-!
# Packed tables of character properties

A property that has a value for every code point is written as its runs of equal values, from zero
upwards: the length of a run in decimal digits, then the letters of its value.
-/

namespace DeclTree.Text

/-- What is known after part of a packed table: the runs that are finished, the start of the current
one, its length so far and the letters of its value, last letter first. -/
structure RunState where
  finished : Array (Nat × String) := #[]
  start : Nat := 0
  length : Nat := 0
  letters : List Char := []

namespace RunState

def close (state : RunState) : RunState :=
  if state.letters.isEmpty then state
  else
    { finished := state.finished.push (state.start, String.ofList state.letters.reverse),
      start := state.start + state.length }

def read (state : RunState) (c : Char) : RunState :=
  if '0' ≤ c && c ≤ '9' then
    let state := state.close
    { state with length := 10 * state.length + (c.toNat - '0'.toNat) }
  else { state with letters := c :: state.letters }

end RunState

/-- The runs of a packed table, each as its first code point and its value. The table may be cut
into lines anywhere. -/
def unpackRuns (lines : List String) : Array (Nat × String) :=
  ((lines.flatMap String.toList).foldl RunState.read {}).close.finished

/-- The value at a code point: that of the last run that starts at or before it. -/
def valueAt (runs : Array (Nat × String)) (n : Nat) : String :=
  runs.foldl (fun value run => if run.1 ≤ n then run.2 else value) ""

end DeclTree.Text
