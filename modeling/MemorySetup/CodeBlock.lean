/-
The lines that set up a call.

The block of a call starts at the first line that loads the upper half of `a0` and ends at the first site of that call
from there on. For every call but the thread setup, which comes first, the search starts at the first mention of a
kernel call. Lines are counted from zero, and the block shows them trimmed.
-/
import MemorySetup.Reading
import MemorySetup.Text.Whitespace

namespace MemorySetup

open Text

/-- the lines that set up a call, from `start` to `stop` inclusive -/
structure CodeBlock where
  start : Nat
  stop : Nat
  lines : List Line
  deriving DecidableEq, Repr

namespace CodeBlock

/-- a line loads the upper half of `a0` -/
def startsBlock (r : Reading) : Bool :=
  match r.instruction? with
  | some (.lui rt _) => rt = Tracked.a0.register
  | _ => false

/-- the first index at or after `start` whose element satisfies `p` -/
def firstFrom? {α : Type} (p : α → Bool) (xs : List α) (start : Nat) : Option Nat :=
  ((xs.drop start).findIdx? p).map (start + ·)

/-- where the search for the start of a block begins -/
def origin? (readings : List Reading) (target : CallNumber) : Option Nat :=
  if target = CallNumber.setupThread then some 0 else readings.findIdx? Reading.mentionsSyscall

/-- the lines from `start` to `stop`, trimmed -/
def ofBounds (lines : List Line) (start stop : Nat) : CodeBlock :=
  ⟨start, stop, ((lines.take (stop + 1)).drop start).map trim⟩

def find? (lines : List Line) (target : CallNumber) : Option CodeBlock := do
  let readings := lines.map Reading.ofLine
  let origin ← origin? readings target
  let start ← firstFrom? startsBlock readings origin
  let stop ← firstFrom? (· == some target) (calls readings) start
  return ofBounds lines start stop

def text (block : CodeBlock) : List Char :=
  unlines block.lines

end CodeBlock

end MemorySetup
