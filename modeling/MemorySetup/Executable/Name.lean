/-
Names of disc executables.

The executable on a disc is named after its product code: one of two region marks, in any letter case, a serial number,
a point and two digits, as in SLUS_214.90.
-/
import MemorySetup.Text.Search

namespace MemorySetup.Executable

open Text

/-- the region marks that product codes start with, in upper case -/
def regionMarks : List (List Char) :=
  [['S', 'L', 'U', 'S', '_'], ['S', 'L', 'E', 'S', '_']]

def markLength : Nat := 5

/-- a point and two digits -/
def isSuffix : List Char → Bool
  | ['.', a, b] => a.isDigit && b.isDigit
  | _ => false

/-- at least one digit, and then a point and two digits -/
def isSerial (s : List Char) : Bool :=
  !(s.takeWhile Char.isDigit).isEmpty && isSuffix (s.dropWhile Char.isDigit)

def isName (name : List Char) : Bool :=
  regionMarks.contains (uppercase (name.take markLength)) && isSerial (name.drop markLength)

end MemorySetup.Executable
