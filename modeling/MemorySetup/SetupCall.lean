/-
A kernel call found in a listing.

`SetupCall.find?` looks for the first site of a call and gathers what is known there: the registers, how the two address
arguments were built, and the lines that set the call up. The registers and the traces are read from trimmed lines.
-/
import MemorySetup.AddressTrace
import MemorySetup.CodeBlock
import MemorySetup.Simulation

namespace MemorySetup

open Text

/-- a found call: its line, the registers at it, and how its arguments came about -/
structure SetupCall where
  site : Nat
  registers : RegisterFile
  a0Trace : AddressTrace
  a1Trace : AddressTrace
  block? : Option CodeBlock
  deriving DecidableEq, Repr

/-- how many lines a trace looks back unless told otherwise -/
def defaultLookback : Nat := 5

/-- the readings of trimmed lines -/
def trimmedReadings (lines : List Line) : List Reading :=
  lines.map fun line => Reading.ofLine (trim line)

namespace SetupCall

/-- the first snapshot at which a call is made, with its line -/
def firstSnapshot? (readings : List Reading) (target : CallNumber) : Option (Snapshot × Nat) :=
  (snapshots readings).zipIdx.find? fun s => s.1.call? == some target

/-- the first site of a call in a listing -/
def find? (text : List Char) (target : CallNumber) (lookback : Nat) : Option SetupCall :=
  let readings := trimmedReadings (lines text)
  (firstSnapshot? readings target).map fun (snapshot, site) =>
    { site := site
      registers := snapshot.registers
      a0Trace := AddressTrace.capture readings .a0 site lookback
      a1Trace := AddressTrace.capture readings .a1 site lookback
      block? := CodeBlock.find? (lines text) target }

end SetupCall

end MemorySetup
