/-
The values known of the tracked registers.

A register is known, with a 32-bit value, or unknown (`none`); in `RegisterFile.unknown` nothing is known. `get` is the
view of a file, and `get_set` says what an assignment does to it.
-/
import MemorySetup.Register

namespace MemorySetup

/-- the values known of the tracked registers -/
structure RegisterFile where
  a0 : Option UInt32
  a1 : Option UInt32
  a2 : Option UInt32
  a3 : Option UInt32
  gp : Option UInt32
  sp : Option UInt32
  v0 : Option UInt32
  t0 : Option UInt32
  deriving DecidableEq, Repr

namespace RegisterFile

def unknown : RegisterFile := ⟨none, none, none, none, none, none, none, none⟩

/-- the value of a register, if it is known -/
def get (regs : RegisterFile) : Tracked → Option UInt32
  | .a0 => regs.a0
  | .a1 => regs.a1
  | .a2 => regs.a2
  | .a3 => regs.a3
  | .gp => regs.gp
  | .sp => regs.sp
  | .v0 => regs.v0
  | .t0 => regs.t0

/-- give a register a value, or forget the one it has -/
def set (regs : RegisterFile) (t : Tracked) (value : Option UInt32) : RegisterFile :=
  match t with
  | .a0 => { regs with a0 := value }
  | .a1 => { regs with a1 := value }
  | .a2 => { regs with a2 := value }
  | .a3 => { regs with a3 := value }
  | .gp => { regs with gp := value }
  | .sp => { regs with sp := value }
  | .v0 => { regs with v0 := value }
  | .t0 => { regs with t0 := value }

@[simp] theorem get_unknown (t : Tracked) : unknown.get t = none := by
  cases t <;> rfl

/-- an assignment changes its own register and no other -/
theorem get_set (regs : RegisterFile) (t u : Tracked) (value : Option UInt32) :
    (regs.set t value).get u = if u = t then value else regs.get u := by
  cases t <;> cases u <;> rfl

end RegisterFile

end MemorySetup
