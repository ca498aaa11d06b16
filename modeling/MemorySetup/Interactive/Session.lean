/-
An interactive session.

A session holds the editor with the listing, the report on it, and what the user chose to see: the active pane, the
format of numbers, and how far the two panes with analysis results are scrolled. `handle` takes one event; Escape ends
the session. Keys other than the two global ones go to the active pane only, and the report is made anew whenever the
text area tells that the text has changed. The log notes each change of the heap base.

Any text area will do; the one that is used is the `Editor`.
-/
import MemorySetup.Executable.Header
import MemorySetup.Interactive.Editor
import MemorySetup.Report

namespace MemorySetup.Interactive

open Text

/-- the panes, in the order in which they become active -/
inductive Pane where
  | editor | registers | setup | logs
  deriving DecidableEq, Repr

def Pane.next : Pane → Pane
  | editor => registers
  | registers => setup
  | setup => logs
  | logs => editor

/-- how register values are shown -/
inductive NumberFormat where
  | hex | binary | decimal
  deriving DecidableEq, Repr

def NumberFormat.next : NumberFormat → NumberFormat
  | hex => binary
  | binary => decimal
  | decimal => hex

structure Session (α : Type := Editor) where
  editor : α
  report : MemoryReport
  header? : Option Executable.Header
  lookback : Nat
  pane : Pane
  format : NumberFormat
  registersScroll : Nat
  setupScroll : Nat
  logs : List String
  deriving DecidableEq, Repr

/-! ## The log -/

def headerMessage (header : Executable.Header) : String :=
  "ELF load address " ++ addressText header.loadAddress ++ " mapped to " ++ addressText header.mappedAddress ++
    " (search bytes " ++ header.reversedHex ++ ")"

def baseMessage : Option UInt32 → String
  | some base =>
    if inRam base then "Heap base " ++ addressText base ++ " is inside EE RAM"
    else "Heap base " ++ addressText base ++ " is outside EE RAM, possibly BIOS/system region"
  | none => "Heap setup (syscall 0x3D) not found"

/-- what is logged when the heap base was `previous` and is now `current` -/
def changeMessages (previous current : Option UInt32) : List String :=
  if current = previous then [] else [baseMessage current]

namespace Session

variable {α κ : Type} [Keystroke κ] [TextArea α κ]

/-- start a session with a listing; the first report is made from the listing as it stands -/
def ofListing (listing : List Char) (header? : Option Executable.Header) (lookback : Nat) : Session α :=
  let report := MemoryReport.ofText listing lookback
  { editor := TextArea.ofLines (editorLines listing)
    report := report
    header? := header?
    lookback := lookback
    pane := .editor
    format := .hex
    registersScroll := 0
    setupScroll := 0
    logs := header?.toList.map headerMessage ++ changeMessages none report.heapBase? }

/-- make the report anew from the text in the editor -/
def reanalyze (s : Session α) : Session α :=
  let report := MemoryReport.ofText (TextArea.text s.editor) s.lookback
  { s with report := report, logs := s.logs ++ changeMessages s.report.heapBase? report.heapBase? }

def setLines (s : Session α) (ls : List Line) : Session α :=
  { s with editor := TextArea.ofLines ls }

def setLookback (s : Session α) (lookback : Nat) : Session α :=
  { s with lookback := lookback }

/-! ## Events -/

/-- how far a pane can be scrolled -/
def maxScroll : Nat := 65535

def scroll (offset : Nat) : Key → Nat
  | .up => offset - 1
  | .down => min (offset + 1) maxScroll
  | _ => offset

def edit (s : Session α) (k : κ) : Session α :=
  let (editor, changed) := TextArea.input s.editor k
  let edited := { s with editor := editor }
  if changed then edited.reanalyze else edited

def scrollBy (offset : Nat) (k : κ) : Nat :=
  (Keystroke.key? k).elim offset (scroll offset)

def pressInPane (s : Session α) (k : κ) : Session α :=
  match s.pane with
  | .editor => s.edit k
  | .registers => { s with registersScroll := scrollBy s.registersScroll k }
  | .setup => { s with setupScroll := scrollBy s.setupScroll k }
  | .logs => s

/-- the key that changes the format of numbers -/
def formatKey : Key := .function 9

/-- press a key other than Escape -/
def press (s : Session α) (k : κ) : Session α :=
  if Keystroke.key? k = some .tab then { s with pane := s.pane.next }
  else if Keystroke.key? k = some formatKey then { s with format := s.format.next }
  else s.pressInPane k

/-- take an event; the session ends with Escape -/
def handle (s : Session α) : Event κ → Option (Session α)
  | .press k => if Keystroke.key? k = some .escape then none else some (s.press k)
  | _ => some s

/-- take events, as long as the session goes on -/
def handleAll (s : Session α) (events : List (Event κ)) : Option (Session α) :=
  events.foldlM handle s

end Session

end MemorySetup.Interactive
