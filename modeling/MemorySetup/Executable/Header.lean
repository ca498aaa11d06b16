/-
The entry word of a disc executable.

Four bytes at offset 0x18 hold the address that a program is loaded to. `Header` is these bytes; they are shown as the
address itself, as the address at which an emulator shows it, in memory order for a search, and as they stand.
`Header.read` looks at the name of the file first and touches the file only if the name is right.
-/
import MemorySetup.Executable.Name
import MemorySetup.Files.FileSystem
import MemorySetup.Text.Numeral
import MemorySetup.Text.Utf8

namespace MemorySetup.Executable

open Text

/-- the four bytes of the entry word -/
structure Header where
  b0 : UInt8
  b1 : UInt8
  b2 : UInt8
  b3 : UInt8
  deriving DecidableEq, Repr

inductive Error where
  | invalidName (name : List Char)
  | tooSmall (size : Nat)
  | unreadable (cause : ReadError)
  deriving DecidableEq, Repr

def Error.message : Error → String
  | invalidName name =>
    "invalid file name '" ++ String.ofList name ++ "', expected something like SLUS_214.90 or SLES_123.45"
  | tooSmall size => "file too small (" ++ decimalText size ++ " bytes)"
  | unreadable cause => cause.message

namespace Header

/-- where the entry word stands in a file -/
def entryOffset : Nat := 0x18

/-- where an emulator shows the start of main memory -/
def emulatorBase : UInt32 := 0x20000000

/-- the header of a file with the given content -/
def ofBytes (content : Bytes) : Except Error Header :=
  match content.drop entryOffset with
  | b0 :: b1 :: b2 :: b3 :: _ => .ok ⟨b0, b1, b2, b3⟩
  | _ => .error (.tooSmall content.length)

def bytes (h : Header) : List UInt8 :=
  [h.b0, h.b1, h.b2, h.b3]

/-- the address that the program is loaded to, most significant byte first -/
def loadAddress (h : Header) : UInt32 :=
  UInt32.ofNat (ofDigits 256 (h.bytes.map UInt8.toNat))

/-- the load address as an emulator shows it, modulo 2^32 -/
def mappedAddress (h : Header) : UInt32 :=
  emulatorBase + h.loadAddress

def byteText (b : UInt8) : List Char :=
  paddedNumeral 16 2 b.toNat

/-- the bytes in memory order, without separators -/
def reversedHex (h : Header) : String :=
  String.ofList (h.bytes.reverse.flatMap byteText)

/-- the bytes as they stand, one blank between them -/
def bytesHex (h : Header) : String :=
  String.ofList (List.intercalate [' '] (h.bytes.map byteText))

/-- the last name of a path as text, empty if there is none -/
def nameOf (path : Path) : List Char :=
  (Path.fileName? path).elim [] readUtf8Lossy

def read (fs : FileSystem) (path : Path) : Except Error Header :=
  if isName (nameOf path) then
    match fs.read path with
    | .ok content => ofBytes content
    | .error cause => .error (.unreadable cause)
  else .error (.invalidName (nameOf path))

end Header

end MemorySetup.Executable
