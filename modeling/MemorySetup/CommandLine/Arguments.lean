/-
Arguments of the command line.

Arguments are taken from left to right. Two options take a value, in the same argument after an equals sign or in the
next one, which then must not look like an option itself; one option is a flag. No option may be given twice, and one
further argument names the listing. After a double dash every argument is taken as it is. Help and version are answered
as soon as they are met, and the first argument that does not fit ends the reading.
-/
import MemorySetup.SetupCall
import MemorySetup.Text.Numeral

namespace MemorySetup.CommandLine

open Text

/-- what a run is asked to do -/
structure Arguments where
  listing? : Option String := none
  executable? : Option String := none
  lookback? : Option Nat := none
  interactive : Bool := false
  deriving DecidableEq, Repr

/-- why arguments are refused -/
inductive UsageError where
  | unexpected (argument : String)
  | repeated (option : String)
  | missingValue (option : String)
  | unneededValue (option value : String)
  | invalidValue (option value : String)
  deriving DecidableEq, Repr

def UsageError.message : UsageError → String
  | unexpected argument => "unexpected argument '" ++ argument ++ "' found"
  | repeated option => "the argument '" ++ option ++ "' cannot be used multiple times"
  | missingValue option => "a value is required for '" ++ option ++ "' but none was supplied"
  | unneededValue option value =>
    "unexpected value '" ++ value ++ "' for '" ++ option ++ "' found; no more were expected"
  | invalidValue option value => "invalid value '" ++ value ++ "' for '" ++ option ++ "': not a number in range"

inductive Request where
  | help
  | version
  | run (arguments : Arguments)
  deriving DecidableEq, Repr

/-- the options that take a value -/
inductive ValueOption where
  | executable | lookback
  deriving DecidableEq, Repr

/-- an argument by its form -/
inductive Form where
  | plain
  | endOfOptions
  | short (letter : Char)
  | long (name : String) (value? : Option String)
  deriving DecidableEq, Repr

/-- what stands behind the first equals sign, if there is one -/
def attachedValue? (s : List Char) : Option String :=
  match s.dropWhile (· ≠ '=') with
  | _ :: value => some (String.ofList value)
  | [] => none

/-- the form of an argument; a dash alone is plain -/
def Form.ofArgument (argument : String) : Form :=
  match argument.toList with
  | ['-', '-'] => endOfOptions
  | '-' :: '-' :: rest => long (String.ofList (rest.takeWhile (· ≠ '='))) (attachedValue? rest)
  | '-' :: letter :: _ => short letter
  | _ => plain

/-- lookbacks stay below 2^64 -/
def lookbackBound : Nat := 0x10000000000000000

/-- an unsigned number in decimal; a plus sign may stand before it -/
def readLookback? (s : String) : Option Nat :=
  let digits := match s.toList with
    | '+' :: rest => rest
    | all => all
  (readNumeral? 10 digits).filter (· < lookbackBound)

namespace Arguments

/-- how many lines a trace looks back -/
def lookback (a : Arguments) : Nat :=
  a.lookback?.getD defaultLookback

def addListing (a : Arguments) (name : String) : Except UsageError Arguments :=
  if a.listing?.isSome then .error (.unexpected name) else .ok { a with listing? := some name }

/-- take the flag for the interactive mode -/
def addInteractive (a : Arguments) : Except UsageError Arguments :=
  if a.interactive then .error (.repeated "--tui") else .ok { a with interactive := true }

def addValue (a : Arguments) (option : ValueOption) (value : String) : Except UsageError Arguments :=
  match option with
  | .executable =>
    if a.executable?.isSome then .error (.repeated "--elf") else .ok { a with executable? := some value }
  | .lookback =>
    if a.lookback?.isSome then .error (.repeated "--lookback")
    else
      match readLookback? value with
      | some n => .ok { a with lookback? := some n }
      | none => .error (.invalidValue "--lookback" value)

end Arguments

inductive LongOption where
  | help | version | interactive
  | valued (option : ValueOption)
  deriving DecidableEq, Repr

def LongOption.ofName? : String → Option LongOption
  | "help" => some help
  | "version" => some version
  | "tui" => some interactive
  | "elf" => some (valued .executable)
  | "lookback" => some (valued .lookback)
  | _ => none

/-- read arguments, on top of those already taken -/
def parseFrom (a : Arguments) : List String → Except UsageError Request
  | [] => .ok (.run a)
  | argument :: rest =>
    match Form.ofArgument argument with
    | .plain => do parseFrom (← a.addListing argument) rest
    | .endOfOptions => do return .run (← rest.foldlM Arguments.addListing a)
    | .short 'h' => .ok .help
    | .short 'V' => .ok .version
    | .short _ => .error (.unexpected argument)
    | .long name value? =>
      match LongOption.ofName? name, value?, rest with
      | some (.valued option), some value, rest => do parseFrom (← a.addValue option value) rest
      | some (.valued _), none, [] => .error (.missingValue argument)
      | some (.valued option), none, value :: rest =>
        if Form.ofArgument value = .plain then do parseFrom (← a.addValue option value) rest
        else .error (.missingValue argument)
      | some .help, none, _ => .ok .help
      | some .version, none, _ => .ok .version
      | some .interactive, none, rest => do parseFrom (← a.addInteractive) rest
      | some _, some value, _ => .error (.unneededValue name value)
      | none, _, _ => .error (.unexpected argument)

def parse (arguments : List String) : Except UsageError Request :=
  parseFrom {} arguments

end MemorySetup.CommandLine
