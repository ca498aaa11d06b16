/-
The course of the registers through a listing.

`execute` follows one instruction as far as the tracked registers go. An unknown source leaves the target of `addiu` as
it was, while `daddu` copies the unknown, unless the source is the result register.

The call that sets up the main thread hands the stack pointer back in `v0`, where it equals the argument `a1`
(`returnStack`); if the next line moves it to `sp`, that is done along with the call (`adoptStack`). `snapshots` runs
through all lines once and records after each one the call made there and the registers at that point, before any stack
is adopted. What is recorded does not depend on the call that anyone looks for.
-/
import MemorySetup.Reading
import MemorySetup.RegisterFile

namespace MemorySetup

namespace Tracked

def luiTargets : List Tracked := [a0, a1, a2, a3, t0, gp]

def addiuTargets : List Tracked := [a0, a1, a2, a3, t0, gp, sp]

/-- registers that `addiu` can start from, besides zero -/
def addiuSources : List Tracked := [a0, a1, a2, a3, t0, gp, v0]

def dadduTargets : List Tracked := [gp, sp, a0, a1, a2, a3]

def dadduSources : List Tracked := [a0, a1, a2, a3, v0]

/-- a general register as one of the given tracked registers -/
def among? (allowed : List Tracked) (r : Register) : Option Tracked :=
  (ofRegister? r).filter (· ∈ allowed)

end Tracked

namespace RegisterFile

/-- the number that `addiu` adds to, if the source is allowed: zero, or the value of a register -/
def addiuBase? (regs : RegisterFile) (rs : Register) : Option UInt32 :=
  if rs = Register.zero then some 0 else (Tracked.among? Tracked.addiuSources rs).bind regs.get

/-- load the upper half of a register -/
def executeLui (regs : RegisterFile) (rt : Register) (upper : UInt16) : RegisterFile :=
  match Tracked.among? Tracked.luiTargets rt with
  | some target => regs.set target (some (upper.toUInt32 <<< 16))
  | none => regs

/-- add to a register, modulo 2^32 -/
def executeAddiu (regs : RegisterFile) (rt rs : Register) (imm : Int32) : RegisterFile :=
  match Tracked.among? Tracked.addiuTargets rt, regs.addiuBase? rs with
  | some target, some base => regs.set target (some (base + imm.toUInt32))
  | _, _ => regs

/-- copy a register, which is what adding zero does -/
def executeDaddu (regs : RegisterFile) (rd rs rt : Register) : RegisterFile :=
  if rt = Register.zero then
    match Tracked.among? Tracked.dadduTargets rd, Tracked.among? Tracked.dadduSources rs with
    | some target, some source =>
      if source = .v0 ∧ regs.get source = none then regs else regs.set target (regs.get source)
    | _, _ => regs
  else regs

def execute (regs : RegisterFile) : Instruction → RegisterFile
  | .lui rt upper => regs.executeLui rt upper
  | .addiu rt rs imm => regs.executeAddiu rt rs imm
  | .daddu rd rs rt => regs.executeDaddu rd rs rt
  | .syscall => regs

/-- follow the instruction on a line, if there is one -/
def follow (regs : RegisterFile) (r : Reading) : RegisterFile :=
  match r.instruction? with
  | some instruction => regs.execute instruction
  | none => regs

/-- the thread setup returns the stack pointer -/
def returnStack (regs : RegisterFile) (call? : Option CallNumber) : RegisterFile :=
  if call? = some CallNumber.setupThread then regs.set .v0 (regs.get .a1) else regs

/-- the move of the returned stack pointer to its register -/
def stackMove : Instruction :=
  .daddu Register.sp Register.v0 Register.zero

/-- the stack pointer is adopted if the line after the thread setup moves it -/
def adoptStack (regs : RegisterFile) (call? : Option CallNumber) (next? : Option Reading) : RegisterFile :=
  if call? = some CallNumber.setupThread ∧ next?.bind Reading.instruction? = some stackMove then
    regs.set .sp (regs.get .v0)
  else regs

end RegisterFile

/-- the call made on a line, and the registers there -/
structure Snapshot where
  call? : Option CallNumber
  registers : RegisterFile
  deriving DecidableEq, Repr

/-- run through lines, after a line that prepared `prepared`, from given registers -/
def snapshotsFrom (prepared : Option CallNumber) (regs : RegisterFile) : List Reading → List Snapshot
  | [] => []
  | r :: rest =>
    let call? := r.call? prepared
    let here := (regs.follow r).returnStack call?
    ⟨call?, here⟩ :: snapshotsFrom r.callNumber? (here.adoptStack call? rest.head?) rest

/-- run through a listing, with nothing known at first -/
def snapshots (readings : List Reading) : List Snapshot :=
  snapshotsFrom none RegisterFile.unknown readings

/-- the recorded calls are those of the listing -/
theorem map_call?_snapshotsFrom (prepared : Option CallNumber) (regs : RegisterFile) (readings : List Reading) :
    (snapshotsFrom prepared regs readings).map Snapshot.call? = callsAfter prepared readings := by
  induction readings generalizing prepared regs with
  | nil => rfl
  | cons r rest ih => simp [snapshotsFrom, callsAfter, ih]

end MemorySetup
