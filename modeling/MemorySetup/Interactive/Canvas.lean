/-
Coloured text in boxes.

A canvas is a list of rows of cells. Text comes in lines of coloured spans; `fit` cuts a line to a width or fills it up
with blanks, so that what is put into a box has exactly its inner size. Boxes are set beside each other row by row, and
below each other by appending.
-/
namespace MemorySetup.Interactive

inductive Color where
  | default | red | green | yellow | magenta | cyan | darkGray
  deriving DecidableEq, Repr

structure Cell where
  char : Char
  color : Color
  deriving DecidableEq, Repr

abbrev Row := List Cell

structure Span where
  text : String
  color : Color := .default
  deriving DecidableEq, Repr

/-- a line of text in several colours -/
abbrev SpanLine := List Span

def blank : Cell := ⟨' ', .default⟩

def cellsOf (color : Color) (s : List Char) : Row :=
  s.map fun c => ⟨c, color⟩

def Span.cells (s : Span) : Row :=
  cellsOf s.color s.text.toList

def cells (line : SpanLine) : Row :=
  line.flatMap Span.cells

/-- exactly `width` elements: the rest cut off, or `filler` added -/
def fit {α : Type} (width : Nat) (filler : α) (xs : List α) : List α :=
  (xs.take width).rightpad width filler

/-- a box around rows; the title stands in its upper edge, in the colour of the frame -/
def box (width height : Nat) (frame : Color) (title : String) (body : List Row) : List Row :=
  let innerWidth := width - 2
  let edge := fun c => [Cell.mk c frame]
  let bar := fun s => cellsOf frame (fit innerWidth '─' s)
  let inside := fit (height - 2) (List.replicate innerWidth blank) (body.map (fit innerWidth blank))
  (edge '┌' ++ bar title.toList ++ edge '┐') ::
    (inside.map fun row => edge '│' ++ row ++ edge '│') ++
    [edge '└' ++ bar [] ++ edge '┘']

def beside (left right : List Row) : List Row :=
  List.zipWith (· ++ ·) left right

end MemorySetup.Interactive
