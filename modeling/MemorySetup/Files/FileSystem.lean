/-
Reading files.

All that is needed of a file system is its answer to a read: the bytes of a file, or the cause why there are none. The
causes carry the number and the wording of the operating system.
-/
import MemorySetup.Files.Path

namespace MemorySetup

inductive ReadError where
  | notFound
  | notADirectory
  | isADirectory
  | nameTooLong
  | permissionDenied
  | zeroByteInPath
  | other (message : String)
  deriving DecidableEq, Repr

def ReadError.message : ReadError → String
  | notFound => "No such file or directory (os error 2)"
  | notADirectory => "Not a directory (os error 20)"
  | isADirectory => "Is a directory (os error 21)"
  | nameTooLong => "File name too long (os error 36)"
  | permissionDenied => "Permission denied (os error 13)"
  | zeroByteInPath => "file name contained an unexpected NUL byte"
  | other message => message

/-- a file system, by its answers to reads -/
structure FileSystem where
  read : Path → Except ReadError Bytes

end MemorySetup
