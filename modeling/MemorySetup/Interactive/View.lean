/-
What a session shows.

The texts of the panes are lists of coloured lines, made without regard to the size of the screen. `draw` scrolls them,
cuts them to their boxes and puts the boxes together: a bar on top, then editor, registers and setup blocks side by
side, and the log at the bottom.
-/
import MemorySetup.Interactive.Canvas
import MemorySetup.Interactive.Session

namespace MemorySetup.Interactive

open Text

/-! ## Texts of the panes -/

def Pane.name : Pane → String
  | editor => "Editor"
  | registers => "Registers"
  | setup => "Setup"
  | logs => "Logs"

namespace NumberFormat

def name : NumberFormat → String
  | hex => "Hex"
  | binary => "Binary"
  | decimal => "Decimal"

def valueText (format : NumberFormat) : Option UInt32 → String
  | none => unknownText
  | some value =>
    match format with
    | hex => addressText value
    | binary => "0b" ++ String.ofList (paddedNumeral 2 32 value.toNat)
    | decimal => decimalText value.toNat

end NumberFormat

namespace Session

/-- the heap base, in green if it lies in main memory and in red if not -/
def baseSpan (s : Session) : Span :=
  match s.report.heapBase? with
  | some base => ⟨addressText base, if inRam base then .green else .red⟩
  | none => ⟨unknownText, .default⟩

def topLine (s : Session) : SpanLine :=
  [⟨"Format (F9): " ++ s.format.name ++ " | Pane (Tab): " ++ s.pane.name ++ " | Heap base: ", .default⟩,
    s.baseSpan] ++
    (s.header?.toList.map fun header => ⟨" | ELF: " ++ addressText header.mappedAddress, .default⟩) ++
    [⟨" | Press ESC to quit", .default⟩]

/-- the registers that are shown, in order -/
def shownRegisters : List Tracked := [.a0, .a1, .a2, .a3, .t0, .gp, .sp]

def callRegisterLines (s : Session) (title : String) (call? : Option SetupCall) : List SpanLine :=
  [⟨title, .cyan⟩] ::
    match call? with
    | some call =>
      shownRegisters.map fun t => [⟨"  " ++ t.name ++ ": " ++ s.format.valueText (call.registers.get t), .default⟩]
    | none => [[⟨"  not found", .default⟩]]

def registerLines (s : Session) : List SpanLine :=
  s.callRegisterLines "0x3C stack setup" s.report.threadSetup? ++
    s.callRegisterLines "0x3D heap setup" s.report.heapSetup?

/-- the number of a line, counted from one, in a column of its own -/
def numberSpan (index : Nat) : Span :=
  ⟨String.ofList ((numeral 10 (index + 1)).leftpad 4 ' ') ++ " ", .darkGray⟩

def numberedLines (block : CodeBlock) : List SpanLine :=
  (block.lines.zipIdx block.start).map fun (line, index) => [numberSpan index, ⟨String.ofList line, .magenta⟩]

/-- the lines that set up a call -/
def callBlockLines (title : String) (call? : Option SetupCall) : List SpanLine :=
  [[⟨title, .cyan⟩]] ++
    (match call?.bind SetupCall.block? with
    | some block => [⟨MemoryReport.spanText block, .darkGray⟩] :: numberedLines block
    | none => [[⟨"  no setup block", .default⟩]]) ++
    [[]]

def calculationLine (t : Tracked) (calculation : Option String) : List SpanLine :=
  calculation.toList.map fun text => [⟨t.name ++ " = " ++ text, .green⟩]

def setupLines {α : Type} (s : Session α) : List SpanLine :=
  callBlockLines "Syscall 0x3C (stack setup)" s.report.threadSetup? ++
    callBlockLines "Syscall 0x3D (heap setup)" s.report.heapSetup? ++
    calculationLine .a0 s.report.heapCalculation? ++ calculationLine .a1 s.report.heapEndCalculation?

def latestLogs (s : Session) (count : Nat) : List SpanLine :=
  (s.logs.drop (s.logs.length - count)).map fun message => [⟨message, .default⟩]

/-- the frame of a pane, in yellow if it is the active one -/
def frameColor (s : Session) (pane : Pane) : Color :=
  if s.pane = pane then .yellow else .default

end Session

/-! ## Layout -/

structure ScreenSize where
  width : Nat
  height : Nat
  deriving DecidableEq, Repr

namespace ScreenSize

def topHeight : Nat := 3

def logsHeight : Nat := 8

def middleHeight (size : ScreenSize) : Nat :=
  size.height - topHeight - logsHeight

def editorWidth (size : ScreenSize) : Nat :=
  size.width * 45 / 100

def registersWidth (size : ScreenSize) : Nat :=
  size.width * 20 / 100

def setupWidth (size : ScreenSize) : Nat :=
  size.width - size.editorWidth - size.registersWidth

/-- the rows of text that the editor shows -/
def editorRows (size : ScreenSize) : Nat :=
  size.middleHeight - 2

/-- the columns of text that the editor shows -/
def editorColumns (size : ScreenSize) : Nat :=
  size.editorWidth - 2

end ScreenSize

/-- the first row and column of the text that the editor shows -/
structure Viewport where
  top : Nat
  left : Nat
  deriving DecidableEq, Repr

namespace Viewport

/-- move a window of `extent` cells from `start` on just so far that it holds `position` -/
def slide (start extent position : Nat) : Nat :=
  if position < start then position
  else if start + extent ≤ position then position + 1 - extent
  else start

/-- keep the cursor in sight -/
def follow (v : Viewport) (size : ScreenSize) (e : Editor) : Viewport :=
  ⟨slide v.top size.editorRows e.row, slide v.left size.editorColumns e.column⟩

def rows (v : Viewport) (e : Editor) : List Row :=
  (e.lines.drop v.top).map fun line => cellsOf .default (line.drop v.left)

end Viewport

structure Position where
  y : Nat
  x : Nat
  deriving DecidableEq, Repr

def cursorPosition (v : Viewport) (e : Editor) : Position :=
  ⟨ScreenSize.topHeight + 1 + (e.row - v.top), 1 + (e.column - v.left)⟩

def paneBox (s : Session) (pane : Pane) (width height : Nat) (title : String) (body : List Row) : List Row :=
  box width height (s.frameColor pane) title body

def draw (s : Session) (v : Viewport) (size : ScreenSize) : List Row :=
  let top := box size.width ScreenSize.topHeight .default "" [cells s.topLine]
  let editor := paneBox s .editor size.editorWidth size.middleHeight
    "Disassembly (paste the setup code here)" (v.rows s.editor)
  let registers := paneBox s .registers size.registersWidth size.middleHeight
    "Registers" ((s.registerLines.drop s.registersScroll).map cells)
  let setup := paneBox s .setup size.setupWidth size.middleHeight
    "Setup blocks" ((s.setupLines.drop s.setupScroll).map cells)
  let logs := paneBox s .logs size.width ScreenSize.logsHeight
    "Analysis Logs" ((s.latestLogs (ScreenSize.logsHeight - 2)).map cells)
  top ++ beside editor (beside registers setup) ++ logs

end MemorySetup.Interactive
