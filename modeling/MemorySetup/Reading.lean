/-
What a line says, and where the kernel calls of a listing are.

Three things about a line matter to every analysis: the instruction on it, whether it mentions a kernel call, and which
call number it prepares. A `Reading` holds the three. A line is a call site when it mentions a kernel call and the line
right before it prepares a number; `calls` gives, line by line, the number of the call made there.
-/
import MemorySetup.Instruction

namespace MemorySetup

open Text

structure Reading where
  instruction? : Option Instruction
  mentionsSyscall : Bool
  callNumber? : Option CallNumber
  deriving DecidableEq, Repr

namespace Reading

def ofLine (line : Line) : Reading :=
  ⟨Instruction.ofLine? line, MemorySetup.mentionsSyscall line, MemorySetup.callNumber? line⟩

/-- the call made on a line, after a line that prepared `prepared` -/
def call? (r : Reading) (prepared : Option CallNumber) : Option CallNumber :=
  if r.mentionsSyscall then prepared else none

end Reading

/-- the calls made line by line, after a line that prepared `prepared` -/
def callsAfter (prepared : Option CallNumber) : List Reading → List (Option CallNumber)
  | [] => []
  | r :: rest => r.call? prepared :: callsAfter r.callNumber? rest

/-- the calls of a listing, line by line -/
def calls (readings : List Reading) : List (Option CallNumber) :=
  callsAfter none readings

end MemorySetup
