/-
How an address was built.

An address is put together by `lui`, for the upper half, and `addiu` of the register to itself, for the lower. A trace
looks back from a call for the latest of each, over a window of lines that ends at the nearest earlier mention of a
kernel call. The two halves are looked for independently of each other.
-/
import MemorySetup.Reading

namespace MemorySetup

/-- the instructions that built an address, as far as they were found -/
structure AddressTrace where
  upper? : Option UInt16
  lower? : Option Int32
  deriving DecidableEq, Repr

namespace AddressTrace

/-- the lines looked at, latest first -/
def window (readings : List Reading) (site lookback : Nat) : List Reading :=
  ((readings.take site).reverse.take lookback).takeWhile fun r => !r.mentionsSyscall

/-- the upper half that a line loads into a register -/
def upperOf? (register : Register) (r : Reading) : Option UInt16 :=
  match r.instruction? with
  | some (.lui rt upper) => if rt = register then some upper else none
  | _ => none

/-- the lower half that a line adds to a register in place -/
def lowerOf? (register : Register) (r : Reading) : Option Int32 :=
  match r.instruction? with
  | some (.addiu rt rs imm) => if rt = register ∧ rs = register then some imm else none
  | _ => none

/-- look back from line `site`, over at most `lookback` lines -/
def capture (readings : List Reading) (t : Tracked) (site lookback : Nat) : AddressTrace :=
  let seen := window readings site lookback
  ⟨seen.findSome? (upperOf? t.register), seen.findSome? (lowerOf? t.register)⟩

end AddressTrace

end MemorySetup
