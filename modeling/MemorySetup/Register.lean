/-
General registers, and the few that are followed through a listing.

The processor has 32 general registers, each with a name of the calling convention (one has two). Eight of them matter
for the setup of memory: the arguments of a kernel call, its result, and the global and stack pointers. They form the
closed type `Tracked`, numbered by `Tracked.register` and found again by `Tracked.ofNumber?`
(`ofNumber?_eq_some_iff`).
-/
import MemorySetup.Text.Search

namespace MemorySetup

abbrev Register := Fin 32

namespace Register

/-- the register that always holds zero -/
def zero : Register := 0

/-- the result of a kernel call -/
def v0 : Register := 2

/-- the number of a kernel call -/
def v1 : Register := 3

/-- the stack pointer -/
def sp : Register := 29

/-- the names of the calling convention, in lower case -/
def abiNames : List (List Char × Register) :=
  [(['z', 'e', 'r', 'o'], 0), (['a', 't'], 1), (['v', '0'], 2), (['v', '1'], 3),
    (['a', '0'], 4), (['a', '1'], 5), (['a', '2'], 6), (['a', '3'], 7),
    (['t', '0'], 8), (['t', '1'], 9), (['t', '2'], 10), (['t', '3'], 11),
    (['t', '4'], 12), (['t', '5'], 13), (['t', '6'], 14), (['t', '7'], 15),
    (['s', '0'], 16), (['s', '1'], 17), (['s', '2'], 18), (['s', '3'], 19),
    (['s', '4'], 20), (['s', '5'], 21), (['s', '6'], 22), (['s', '7'], 23),
    (['t', '8'], 24), (['t', '9'], 25), (['k', '0'], 26), (['k', '1'], 27),
    (['g', 'p'], 28), (['s', 'p'], 29), (['s', '8'], 30), (['f', 'p'], 30), (['r', 'a'], 31)]

/-- the register with a given name, in any letter case -/
def ofName? (name : List Char) : Option Register :=
  abiNames.lookup (Text.lowercase name)

end Register

/-- the registers whose values are followed -/
inductive Tracked where
  | a0 | a1 | a2 | a3 | gp | sp | v0 | t0
  deriving DecidableEq, Repr

namespace Tracked

def all : List Tracked := [a0, a1, a2, a3, gp, sp, v0, t0]

def register : Tracked → Register
  | a0 => 4
  | a1 => 5
  | a2 => 6
  | a3 => 7
  | gp => 28
  | sp => 29
  | v0 => 2
  | t0 => 8

def name : Tracked → String
  | a0 => "a0"
  | a1 => "a1"
  | a2 => "a2"
  | a3 => "a3"
  | gp => "gp"
  | sp => "sp"
  | v0 => "v0"
  | t0 => "t0"

/-- the tracked register with a given number -/
def ofNumber? (n : Nat) : Option Tracked :=
  all.find? fun t => t.register.val == n

/-- the tracked register that is a given general register -/
def ofRegister? (r : Register) : Option Tracked :=
  ofNumber? r.val

/-- numbers find exactly the register they number -/
theorem ofNumber?_eq_some_iff {n : Nat} {t : Tracked} : ofNumber? n = some t ↔ t.register.val = n := by
  constructor
  · intro h
    simpa using List.find?_some h
  · rintro rfl
    cases t <;> rfl

/-- a tracked register is found by its number -/
@[simp] theorem ofRegister?_register (t : Tracked) : ofRegister? t.register = some t :=
  ofNumber?_eq_some_iff.2 rfl

end Tracked

end MemorySetup
