/-
Instructions of a listing line.

Whatever stands before the first mnemonic of a line (addresses, raw words, labels) is skipped, and whatever follows the
operands is ignored. `Instruction.ofLine?` reads the instruction, `callNumber?` the number of the kernel call that a
line prepares, and `mentionsSyscall` looks for the call itself anywhere in the line, comments included.
-/
import MemorySetup.Token

namespace MemorySetup

open Text

/-- a mnemonic with the tokens after it -/
structure Statement where
  mnemonic : Mnemonic
  operands : List Token
  deriving DecidableEq, Repr

/-- the statement that the first mnemonic starts -/
def Statement.ofTokens? : List Token → Option Statement
  | [] => none
  | .instruction m :: rest => some ⟨m, rest⟩
  | _ :: rest => ofTokens? rest

/-- the instructions that can be read -/
inductive Instruction where
  | lui (rt : Register) (upper : UInt16)
  | addiu (rt rs : Register) (imm : Int32)
  | daddu (rd rs rt : Register)
  | syscall
  deriving DecidableEq, Repr

namespace Instruction

/-- `rt, literal`: the literal has at most four digits and is not negative -/
def lui? : List Token → Option Instruction
  | .register rt :: .comma :: .immediate value digits :: _ =>
    if 0 ≤ value ∧ digits ≤ 4 then some (lui rt (UInt16.ofNat value.toNat)) else none
  | _ => none

/-- `rt, rs, literal`: a wide literal counts modulo 2^32 -/
def addiu? : List Token → Option Instruction
  | .register rt :: .comma :: .register rs :: .comma :: .immediate value _ :: _ =>
    some (addiu rt rs (Int32.ofInt value))
  | _ => none

/-- `rd, rs, rt` -/
def daddu? : List Token → Option Instruction
  | .register rd :: .comma :: .register rs :: .comma :: .register rt :: _ => some (daddu rd rs rt)
  | _ => none

def ofStatement? (s : Statement) : Option Instruction :=
  match s.mnemonic with
  | .lui => lui? s.operands
  | .addiu => addiu? s.operands
  | .daddu => daddu? s.operands
  | .syscall => some syscall

def ofLine? (line : Line) : Option Instruction :=
  (Statement.ofTokens? (tokens line)).bind ofStatement?

end Instruction

abbrev CallNumber := UInt8

namespace CallNumber

/-- sets up the main thread and its stack -/
def setupThread : CallNumber := 0x3C

/-- sets up the dynamic heap -/
def setupHeap : CallNumber := 0x3D

/-- `v1, zero, literal`: the literal has one or two digits and is not negative -/
def ofOperands? : List Token → Option CallNumber
  | .register rt :: .comma :: .register rs :: .comma :: .immediate value digits :: _ =>
    if rt = Register.v1 ∧ rs = Register.zero ∧ 1 ≤ digits ∧ digits ≤ 2 ∧ 0 ≤ value ∧ value < 256 then
      some (UInt8.ofNat value.toNat)
    else none
  | _ => none

def ofStatement? (s : Statement) : Option CallNumber :=
  if s.mnemonic = .addiu then ofOperands? s.operands else none

end CallNumber

/-- the number of the kernel call that a line prepares -/
def callNumber? (line : Line) : Option CallNumber :=
  (Statement.ofTokens? (tokens line)).bind CallNumber.ofStatement?

/-- the word that makes a line a kernel call -/
def syscallWord : List Char := ['s', 'y', 's', 'c', 'a', 'l', 'l']

/-- the line that prepares the call for the main thread, as disassemblers write it -/
def prepareThreadLine : Line :=
  ['a', 'd', 'd', 'i', 'u', ' ', 'v', '1', ',', 'z', 'e', 'r', 'o', ',', '0', 'x', '3', 'c']

/-- the line that prepares the call for the heap -/
def prepareHeapLine : Line :=
  ['a', 'd', 'd', 'i', 'u', ' ', 'v', '1', ',', 'z', 'e', 'r', 'o', ',', '0', 'x', '3', 'd']

/-- the line that takes over the stack pointer from the call for the main thread -/
def moveStackLine : Line :=
  ['d', 'a', 'd', 'd', 'u', ' ', 's', 'p', ',', 'v', '0', ',', 'z', 'e', 'r', 'o']

/-- a line mentions a kernel call, in any letter case -/
def mentionsSyscall (line : Line) : Bool :=
  occursIn syscallWord (lowercase line)

end MemorySetup
