/-
The command line program: it reads the files that the arguments name, prints what the run decides, and keeps an
interactive session going until it ends. The terminal is expected to pass keys on unchanged, as in raw mode.
-/
import MemorySetup.CommandLine.Run
import MemorySetup.Interactive.Ansi

namespace MemorySetup

open CommandLine Interactive

/-- the number of a system error, which may come negated -/
def systemNumber (code : UInt32) : UInt32 :=
  min code (0 - code)

/-- why the operating system refused a read -/
def readErrorOf : IO.Error → ReadError
  | .noFileOrDirectory .. => .notFound
  | .permissionDenied .. => .permissionDenied
  | .inappropriateType _ code _ => if systemNumber code = 20 then .notADirectory else .isADirectory
  | .invalidArgument _ code details => if systemNumber code = 36 then .nameTooLong else .other details
  | error => .other (toString error)

/-- the answer of the operating system to a read -/
def readNamed (name : String) : IO (Except ReadError Bytes) := do
  match ← (IO.FS.readBinFile name).toBaseIO with
  | .ok content => return .ok content.data.toList
  | .error error => return .error (readErrorOf error)

/-- a file system that knows the named files only -/
def fileSystemOf (names : List String) : IO FileSystem := do
  let answers ← names.mapM fun name => return (Path.ofString name, ← readNamed name)
  return ⟨fun path => (answers.lookup path).getD (.error .notFound)⟩

/-- a size that the environment tells, or a default -/
def screenExtent (name : String) (default : Nat) : IO Nat := do
  return ((← IO.getEnv name).bind (·.toNat?)).getD default

partial def interact (input output : IO.FS.Stream) (d : Display) : IO Unit := do
  output.putStr (Ansi.render d)
  output.flush
  let sent ← input.read 64
  unless sent.isEmpty do
    match d.handleAll (Ansi.eventsOf sent.data.toList) with
    | some next => interact input output next
    | none => return

def program (arguments : List String) : IO UInt32 := do
  let fs ← fileSystemOf (namedFiles arguments)
  let outcome := run fs arguments
  (← IO.getStdout).putStr outcome.stdout
  (← IO.getStderr).putStr outcome.stderr
  match outcome with
  | .interactive listing header? lookback =>
    let size := ⟨← screenExtent "COLUMNS" 80, ← screenExtent "LINES" 24⟩
    interact (← IO.getStdin) (← IO.getStdout) (Display.start size (Session.ofListing listing header? lookback))
  | _ => pure ()
  return outcome.exitCode.toUInt32

end MemorySetup

def main (arguments : List String) : IO UInt32 :=
  MemorySetup.program arguments
