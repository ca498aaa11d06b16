/-
Paths.

A path is a byte string whose components are divided by slashes. Empty components do not count, and neither does the
component `.` where the last name of a path is asked for. A path that ends in `..`, or has no component, has no name.
-/
namespace MemorySetup

abbrev Bytes := List UInt8

abbrev Path := Bytes

namespace Path

/-- the byte that divides components -/
def slash : UInt8 := 0x2F

/-- the component for the folder itself -/
def here : Bytes := [0x2E]

/-- the component for the folder above -/
def above : Bytes := [0x2E, 0x2E]

def ofString (s : String) : Path :=
  s.toUTF8.data.toList

def components (path : Path) : List Bytes :=
  (path.splitOn slash).filter (· ≠ [])

def fileName? (path : Path) : Option Bytes :=
  ((components path).filter (· ≠ here)).getLast?.filter (· ≠ above)

/-- the path starts at the root of all files -/
def isAbsolute (path : Path) : Bool :=
  path.head? == some slash

/-- the path insists that it leads to a folder -/
def endsInSlash (path : Path) : Bool :=
  path.getLast? == some slash

end Path

end MemorySetup
