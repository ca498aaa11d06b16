/-
Failures of a run.

A failure says what was attempted and gives the chain of its causes, each indented below. A cause that has several lines
keeps its indentation on each, and causes are numbered when there is more than one.
-/
import MemorySetup.Text.Lines
import MemorySetup.Text.Numeral

namespace MemorySetup.CommandLine

open Text

/-- what was attempted, and why it failed -/
structure Failure where
  attempt : String
  causes : List String
  deriving DecidableEq, Repr

namespace Failure

/-- a text with `first` before its first line and `next` before every further one -/
def indented (first next text : String) : String :=
  first ++ ("\n" ++ next).intercalate ((lines text.toList).map String.ofList)

/-- the number of a cause, in a column of its own -/
def numbering (k : Nat) : String :=
  String.ofList ((numeral 10 k).leftpad 5 ' ') ++ ": "

/-- the lines of the causes -/
def causeTexts : List String → List String
  | [cause] => [indented "    " "    " cause]
  | causes => causes.zipIdx.map fun (cause, k) => indented (numbering k) "       " cause

def render (failure : Failure) : String :=
  "Error: " ++ failure.attempt ++ "\n\nCaused by:\n" ++
    String.join ((causeTexts failure.causes).map (· ++ "\n"))

end Failure

end MemorySetup.CommandLine
