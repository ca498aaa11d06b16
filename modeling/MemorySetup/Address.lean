/-
Addresses and the way they are shown.

The main memory spans 32 MB, of which programs may use the part from 1 MB on; a heap that starts elsewhere is not a
program's own. Known values are shown with eight hexadecimal digits, unknown ones as `N/A`.
-/
import MemorySetup.AddressTrace
import MemorySetup.Text.Numeral

namespace MemorySetup

open Text

/-- the first address of a program's memory -/
def ramStart : UInt32 := 0x00100000

/-- the last address of main memory -/
def ramEnd : UInt32 := 0x01FFFFFF

/-- an address in the part of main memory that programs may use -/
def inRam (address : UInt32) : Bool :=
  ramStart ≤ address && address ≤ ramEnd

/-- an address, with all its digits -/
def addressText (address : UInt32) : String :=
  hexText 8 address.toNat

def unknownText : String := "N/A"

/-- the value of a register, known or not -/
def valueText : Option UInt32 → String
  | some value => addressText value
  | none => unknownText

/-- how an address was built, if its upper half is known; the lower half is shown without its sign -/
def AddressTrace.calculation? (trace : AddressTrace) (value : UInt32) : Option String :=
  trace.upper?.map fun upper =>
    let lower := trace.lower?.elim 0 fun imm => imm.toInt.natAbs
    "(" ++ hexText 0 upper.toNat ++ " << 16) + " ++ hexText 0 lower ++ " = " ++ addressText value

end MemorySetup
