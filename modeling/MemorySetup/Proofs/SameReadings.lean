/-
What is found in a listing depends on the readings of its lines alone.

`readingAt ls i` is what line `i` says; a line past the end says what an empty one does, which is nothing. Listings with
the same readings (`SameReadings`) have the same instructions and the same calls on every line. Hence
- the same run: `SameReadings.sameRun`, `SameReadings.firstSite?`;
- blocks with the same bounds, each with the lines of its own listing: `SameReadings.block`;
- the same found calls, up to the lines of their blocks: `SameReadings.find?`.
The listings need not have the same number of lines.

An `Outline` is a found call up to the lines of its block. `Outline.find?` finds it from the readings of a listing, one
after the other, and needs no text; `outline_find?` says that it is the outline of the call found in the text.
-/
import MemorySetup.Proofs.BlockBounds

namespace MemorySetup

open Text

/-! ## Readings by line number -/

/-- what line `i` says -/
def readingAt (ls : List Line) (i : Nat) : Reading :=
  (ls[i]?.map Reading.ofLine).getD (Reading.ofLine [])

/-- two listings say the same on every line -/
def SameReadings (ls other : List Line) : Prop :=
  ∀ i, readingAt ls i = readingAt other i

section ReadingAt

variable (ls : List Line) (i : Nat)

theorem instructionAt?_eq : instructionAt? ls i = (readingAt ls i).instruction? := by
  unfold instructionAt? readingAt
  cases ls[i]? <;> rfl

theorem mentions_eq : ls[i]?.any mentionsSyscall = (readingAt ls i).mentionsSyscall := by
  unfold readingAt
  cases ls[i]? <;> rfl

theorem prepares_eq : ls[i]?.bind callNumber? = (readingAt ls i).callNumber? := by
  unfold readingAt
  cases ls[i]? <;> rfl

end ReadingAt

/-! ## Listings with the same readings -/

namespace SameReadings

variable {ls other : List Line}

theorem instructionAt? (h : SameReadings ls other) (i : Nat) : instructionAt? ls i = instructionAt? other i := by
  rw [instructionAt?_eq, instructionAt?_eq, h i]

theorem isCallSite (h : SameReadings ls other) (i : Nat) (number : CallNumber) :
    IsCallSite ls i number ↔ IsCallSite other i number := by
  rw [IsCallSite, IsCallSite, mentions_eq, mentions_eq, prepares_eq, prepares_eq, h i, h (i - 1)]

theorem loadsUpperAt (h : SameReadings ls other) (i : Nat) : LoadsUpperAt ls i ↔ LoadsUpperAt other i := by
  rw [LoadsUpperAt, LoadsUpperAt, h.instructionAt?]

theorem inSearch (h : SameReadings ls other) (target : CallNumber) (i : Nat) :
    InSearch ls target i ↔ InSearch other target i := by
  have hmentions : ∀ k, MentionsAt ls k ↔ MentionsAt other k := by
    intro k
    rw [MentionsAt, MentionsAt, mentions_eq, mentions_eq, h k]
  simp only [InSearch, hmentions]

theorem sameRun (h : SameReadings ls other) (i : Nat) : SameRun ls other i :=
  ⟨fun k _ => h.instructionAt? k, fun k _ => h.isCallSite k⟩

theorem firstSite? (h : SameReadings ls other) (target : CallNumber) :
    firstSite? ls target = firstSite? other target := by
  refine Option.ext fun i => ?_
  simp only [firstSite?_eq_some_iff, h.isCallSite]

/-- as far as both listings go, they have the same readings one after the other -/
theorem trimmedReadings_take (h : SameReadings ls other) {n : Nat} (hn : n ≤ ls.length) (hn' : n ≤ other.length) :
    (trimmedReadings ls).take n = (trimmedReadings other).take n := by
  rw [trimmedReadings_eq, trimmedReadings_eq]
  apply List.ext_getElem
  · simp only [List.length_take, List.length_map]
    omega
  · intro i h1 h2
    simp only [List.length_take, List.length_map] at h1 h2
    have hi := h i
    rw [readingAt, readingAt, List.getElem?_eq_getElem (by omega), List.getElem?_eq_getElem (by omega)] at hi
    simpa using hi

/-- the same readings have blocks with the same bounds -/
theorem block (h : SameReadings ls other) (target : CallNumber) :
    CodeBlock.find? other target =
      (CodeBlock.find? ls target).map fun block => CodeBlock.ofBounds other block.start block.stop := by
  refine Option.ext fun block => ?_
  simp only [Option.map_eq_some_iff, find?_block_iff, h.inSearch, h.loadsUpperAt, h.isCallSite]
  constructor
  · rintro ⟨start, stop, hstart, hstop, rfl⟩
    exact ⟨CodeBlock.ofBounds ls start stop, ⟨start, stop, hstart, hstop, rfl⟩, rfl⟩
  · rintro ⟨_, ⟨start, stop, hstart, hstop, rfl⟩, rfl⟩
    exact ⟨start, stop, hstart, hstop, rfl⟩

end SameReadings

/-- **The same readings have the same found calls**: with the same site, registers and traces, and with blocks of the
same bounds. -/
theorem SameReadings.find? {text other : List Char} (h : SameReadings (lines text) (lines other))
    (target : CallNumber) (lookback : Nat) :
    SetupCall.find? other target lookback = (SetupCall.find? text target lookback).map fun call =>
      { call with block? := call.block?.map fun block =>
          CodeBlock.ofBounds (lines other) block.start block.stop } := by
  rw [find?_eq, find?_eq, ← h.firstSite?]
  cases hsite : MemorySetup.firstSite? (lines text) target with
  | none => rfl
  | some i =>
    have hcall : IsCallSite (lines text) i target := (firstSite?_eq_some_iff.1 hsite).1
    have hreadings := h.trimmedReadings_take hcall.lt_length.le ((h.isCallSite i target).1 hcall).lt_length.le
    simp only [Option.map_some, callFoundAt, (h.sameRun i).registersAt, capture_congr hreadings, h.block]

/-! ## Outlines -/

/-- first and last line of a block -/
def CodeBlock.bounds (block : CodeBlock) : Nat × Nat :=
  (block.start, block.stop)

/-- first and last line of the block of a call, from the readings of a listing -/
def CodeBlock.boundsIn? (readings : List Reading) (target : CallNumber) : Option (Nat × Nat) := do
  let origin ← origin? readings target
  let start ← firstFrom? startsBlock readings origin
  let stop ← firstFrom? (· == some target) (calls readings) start
  return (start, stop)

/-- a found call, the lines of its block apart -/
structure Outline where
  site : Nat
  registers : RegisterFile
  a0Trace : AddressTrace
  a1Trace : AddressTrace
  bounds? : Option (Nat × Nat)
  deriving DecidableEq, Repr

def SetupCall.outline (call : SetupCall) : Outline :=
  ⟨call.site, call.registers, call.a0Trace, call.a1Trace, call.block?.map CodeBlock.bounds⟩

/-- the first site of a call, from the readings of a listing -/
def Outline.find? (readings : List Reading) (target : CallNumber) (lookback : Nat) : Option Outline :=
  (SetupCall.firstSnapshot? readings target).map fun (snapshot, site) =>
    { site := site
      registers := snapshot.registers
      a0Trace := AddressTrace.capture readings .a0 site lookback
      a1Trace := AddressTrace.capture readings .a1 site lookback
      bounds? := CodeBlock.boundsIn? readings target }

theorem bounds_find? (ls : List Line) (target : CallNumber) :
    (CodeBlock.find? ls target).map CodeBlock.bounds = CodeBlock.boundsIn? (ls.map Reading.ofLine) target := by
  simp only [CodeBlock.find?, CodeBlock.boundsIn?, Option.bind_eq_bind, Option.map_bind, Function.comp_def,
    Option.pure_def, Option.map_some, CodeBlock.bounds, CodeBlock.ofBounds]

/-- **The outline of a found call is a matter of the readings.** -/
theorem outline_find? (text : List Char) (target : CallNumber) (lookback : Nat) :
    (SetupCall.find? text target lookback).map SetupCall.outline =
      Outline.find? ((lines text).map Reading.ofLine) target lookback := by
  simp only [SetupCall.find?, Outline.find?, Option.map_map, trimmedReadings_eq, ← bounds_find?]
  rfl

end MemorySetup
