/-
A run of the program.

`run` takes the arguments and a file system and decides everything a run does, short of printing it. The listing is read
first and the executable second; only when both are at hand is anything printed, so a run prints all of its output or
none. Without a listing, or on request, the interactive editor is opened instead.
-/
import MemorySetup.CommandLine.Arguments
import MemorySetup.CommandLine.Failure
import MemorySetup.Executable.Header
import MemorySetup.Report
import MemorySetup.Text.Utf8

namespace MemorySetup.CommandLine

open Text

/-- how a run ends, or that it goes on interactively -/
inductive Outcome where
  | finished (output : String)
  | failed (failure : Failure)
  | rejected (error : UsageError)
  | interactive (listing : List Char) (header? : Option Executable.Header) (lookback : Nat)
  deriving DecidableEq, Repr

def versionText : String := "eeheap 0.1.0\n"

def usageLine : String := "Usage: eeheap [OPTIONS] [LISTING]"

def helpText : String :=
  String.join ([
    "Recover the PS2 stack and dynamic heap setup from a disassembly listing",
    "",
    usageLine,
    "",
    "Arguments:",
    "  [LISTING]  Text file with the disassembled setup code",
    "",
    "Options:",
    "      --elf <PATH>           Disc executable (SLUS_xxx.yy / SLES_xxx.yy) to read the load address from",
    "      --tui                  Open the interactive editor even when a listing is given",
    "      --lookback <LOOKBACK>  Lines searched backwards for the lui/addiu pair of each argument [default: 5]",
    "  -h, --help                 Print help",
    "  -V, --version              Print version"].map (· ++ "\n"))

def UsageError.render (error : UsageError) : String :=
  "error: " ++ error.message ++ "\n\n" ++ usageLine ++ "\n\nFor more information, try '--help'.\n"

/-- read a listing, which must be UTF-8 -/
def readListing (fs : FileSystem) (name : String) : Except Failure (List Char) :=
  let attempt := "failed to read listing " ++ name
  match fs.read (Path.ofString name) with
  | .error cause => .error ⟨attempt, [cause.message]⟩
  | .ok content =>
    match readUtf8? content with
    | some text => .ok text
    | none => .error ⟨attempt, ["stream did not contain valid UTF-8"]⟩

/-- the chain of causes of an error: a read error stands below the error it leads to -/
def executableCauses (error : Executable.Error) : List String :=
  match error with
  | .unreadable cause => [error.message, cause.message]
  | _ => [error.message]

def readHeader (fs : FileSystem) (name : String) : Except Failure Executable.Header :=
  match Executable.Header.read fs (Path.ofString name) with
  | .ok header => .ok header
  | .error error => .error ⟨"failed to read ELF header from " ++ name, executableCauses error⟩

/-- the section on the executable -/
def headerLines (header : Executable.Header) : List String :=
  ["ELF bytes @0x18: " ++ header.bytesHex,
    "Load address: " ++ addressText header.loadAddress,
    "Mapped PCSX2 EE RAM address: " ++ addressText header.mappedAddress,
    "Search bytes: " ++ header.reversedHex,
    ""]

/-- the output of a run: the section on the executable, if there is one, and the report -/
def output (listing : List Char) (header? : Option Executable.Header) (lookback : Nat) : String :=
  String.join ((header?.elim [] headerLines ++ (MemoryReport.ofText listing lookback).lines).map (· ++ "\n"))

/-- read what the arguments name -/
def readInputs (fs : FileSystem) (a : Arguments) : Except Failure (List Char × Option Executable.Header) := do
  let listing ← a.listing?.elim (pure []) (readListing fs)
  let header? ← a.executable?.mapM (readHeader fs)
  return (listing, header?)

/-- do what the arguments ask for -/
def execute (fs : FileSystem) (a : Arguments) : Outcome :=
  match readInputs fs a with
  | .error failure => .failed failure
  | .ok (listing, header?) =>
    if a.interactive || a.listing?.isNone then .interactive listing header? a.lookback
    else .finished (output listing header? a.lookback)

/-- the files that the arguments name -/
def namedFiles (arguments : List String) : List String :=
  match parse arguments with
  | .ok (.run a) => a.listing?.toList ++ a.executable?.toList
  | _ => []

def run (fs : FileSystem) (arguments : List String) : Outcome :=
  match parse arguments with
  | .error error => .rejected error
  | .ok .help => .finished helpText
  | .ok .version => .finished versionText
  | .ok (.run a) => execute fs a

namespace Outcome

def stdout : Outcome → String
  | finished output => output
  | _ => ""

def stderr : Outcome → String
  | failed failure => failure.render
  | rejected error => error.render
  | _ => ""

def exitCode : Outcome → UInt8
  | failed _ => 1
  | rejected _ => 2
  | _ => 0

end Outcome

end MemorySetup.CommandLine
