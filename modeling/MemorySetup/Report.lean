/-
The report on a listing.

A listing is examined for two calls: the one that sets up the main thread with its stack, and the one that sets up the
dynamic heap. The first argument of the latter is the heap base. Without a known heap base the report is one line that
says so; otherwise it gives a verdict on the base, the thread setup if there is one, the heap setup, and the span of
main memory.
-/
import MemorySetup.Address
import MemorySetup.SetupCall

namespace MemorySetup

open Text

/-- what was found out about a listing -/
structure MemoryReport where
  threadSetup? : Option SetupCall
  heapSetup? : Option SetupCall
  deriving DecidableEq, Repr

namespace MemoryReport

def ofText (text : List Char) (lookback : Nat) : MemoryReport :=
  ⟨SetupCall.find? text CallNumber.setupThread lookback, SetupCall.find? text CallNumber.setupHeap lookback⟩

def heapBase? (report : MemoryReport) : Option UInt32 :=
  report.heapSetup?.bind fun heap => heap.registers.get .a0

/-- how the start of the heap was built -/
def heapCalculation? (report : MemoryReport) : Option String := do
  let heap ← report.heapSetup?
  let base ← heap.registers.get .a0
  heap.a0Trace.calculation? base

/-- how the end of the heap, or its size, was built -/
def heapEndCalculation? (report : MemoryReport) : Option String := do
  let heap ← report.heapSetup?
  let stop ← heap.registers.get .a1
  heap.a1Trace.calculation? stop

/-! ## The text of a report -/

/-- the only line of a report without a heap base -/
def noHeapLine : String := "No dynamic heap setup (syscall 0x3D) found in the listing"

/-- what a heap base says about the heap -/
def verdict (base : UInt32) : String :=
  if inRam base then "is the start of dynamic memory (heap)" else "possibly BIOS/system region"

/-- the first line of a report with a heap base -/
def baseLine (base : UInt32) : String :=
  "Computed dynamic heap base (0x3D): " ++ addressText base ++ " " ++ verdict base

/-- first and last line of a block, counted from one -/
def spanText (block : CodeBlock) : String :=
  "  lines " ++ decimalText (block.start + 1) ++ "-" ++ decimalText (block.stop + 1)

def blockLines : Option CodeBlock → List String
  | some block => (spanText block ++ ":") :: block.lines.map fun line => "    | " ++ String.ofList line
  | none => []

/-- a text filled up with spaces to a width -/
def padded (width : Nat) (s : String) : String :=
  String.ofList (s.toList.rightpad width ' ')

/-- the line that shows a register with its meaning -/
def registerLine (t : Tracked) (value : Option UInt32) (meaning : String) : String :=
  "  " ++ t.name ++ ": " ++ padded 10 (valueText value) ++ " " ++ meaning

def calculationLines (calculation : Option String) : List String :=
  calculation.toList.map ("      " ++ ·)

/-- the registers of the thread setup, in the order they are shown, with their meanings -/
def threadRegisters : List (Tracked × String) :=
  [(.a0, "base of game code or internal data"), (.a1, "stack boundary"), (.a2, "size or init parameters"),
    (.a3, "entry point (main)"), (.t0, "fixed global address"), (.gp, "global pointer"),
    (.sp, "stack pointer, set from v0 after the call")]

def threadLines (thread : SetupCall) : List String :=
  ["Syscall 0x3C (stack setup)"] ++ blockLines thread.block? ++
    (threadRegisters.map fun (t, meaning) => registerLine t (thread.registers.get t) meaning) ++ [""]

def heapLines (report : MemoryReport) (heap : SetupCall) : List String :=
  ["Syscall 0x3D (dynamic heap setup)"] ++ blockLines heap.block? ++
    [registerLine .a0 (heap.registers.get .a0) "heap start"] ++ calculationLines report.heapCalculation? ++
    [registerLine .a1 (heap.registers.get .a1) "heap end/size"] ++ calculationLines report.heapEndCalculation?

/-- the last line of a report with a heap base -/
def ramLine : String :=
  "EE RAM spans " ++ addressText ramStart ++ " to " ++ addressText ramEnd ++ " (32MB)"

def lines (report : MemoryReport) : List String :=
  match report.heapSetup?, report.heapBase? with
  | some heap, some base =>
    [baseLine base, ""] ++ (report.threadSetup?.elim [] threadLines) ++ report.heapLines heap ++ ["", ramLine]
  | _, _ => [noHeapLine]

end MemoryReport

end MemorySetup
