/-
A text editor.

The text is held around the cursor: the lines above it and the characters before it, nearest first, and the characters
after it and the lines below. So the text has at least one line and the cursor always stands in it. `lines` is the view
of the text, `row` and `column` that of the cursor, counted from zero. A key that has nothing to do does nothing. The
editor is the text area that sessions are run with.
-/
import MemorySetup.Interactive.TextArea

namespace MemorySetup.Interactive

open Text

/-- a text with a cursor in it -/
structure Editor where
  above : List Line
  before : List Char
  after : List Char
  below : List Line
  deriving DecidableEq, Repr

namespace Editor

/-- the line with the cursor -/
def current (e : Editor) : Line :=
  e.before.reverse ++ e.after

def lines (e : Editor) : List Line :=
  e.above.reverse ++ e.current :: e.below

def row (e : Editor) : Nat :=
  e.above.length

def column (e : Editor) : Nat :=
  e.before.length

/-- an editor with the given lines and the cursor at the start; without lines there is one empty line -/
def ofLines : List Line → Editor
  | [] => ⟨[], [], [], []⟩
  | line :: below => ⟨[], [], line, below⟩

/-- the cursor in `line`, at `column` or at the end of a shorter line -/
def place (above : List Line) (line : Line) (below : List Line) (column : Nat) : Editor :=
  ⟨above, (line.take column).reverse, line.drop column, below⟩

/-! ## Keys -/

def insert (e : Editor) (c : Char) : Editor :=
  { e with before := c :: e.before }

def splitLine (e : Editor) : Editor :=
  ⟨e.before.reverse :: e.above, [], e.after, e.below⟩

/-- delete the character before the cursor, or join the line to the one above -/
def deleteBefore (e : Editor) : Editor :=
  match e.before, e.above with
  | _ :: before, _ => { e with before := before }
  | [], line :: above => ⟨above, line.reverse, e.after, e.below⟩
  | [], [] => e

/-- delete the character after the cursor, or join the line below to this one -/
def deleteAfter (e : Editor) : Editor :=
  match e.after, e.below with
  | _ :: after, _ => { e with after := after }
  | [], line :: below => ⟨e.above, e.before, line, below⟩
  | [], [] => e

/-- one character to the left, or to the end of the line above -/
def moveLeft (e : Editor) : Editor :=
  match e.before, e.above with
  | c :: before, _ => { e with before := before, after := c :: e.after }
  | [], line :: above => ⟨above, line.reverse, [], e.current :: e.below⟩
  | [], [] => e

/-- one character to the right, or to the start of the line below -/
def moveRight (e : Editor) : Editor :=
  match e.after, e.below with
  | c :: after, _ => { e with before := c :: e.before, after := after }
  | [], line :: below => ⟨e.current :: e.above, [], line, below⟩
  | [], [] => e

/-- one line up, in the same column as far as the line reaches -/
def moveUp (e : Editor) : Editor :=
  match e.above with
  | line :: above => place above line (e.current :: e.below) e.column
  | [] => e

/-- one line down, in the same column as far as the line reaches -/
def moveDown (e : Editor) : Editor :=
  match e.below with
  | line :: below => place (e.current :: e.above) line below e.column
  | [] => e

def moveHome (e : Editor) : Editor :=
  { e with before := [], after := e.current }

def moveEnd (e : Editor) : Editor :=
  { e with before := e.current.reverse, after := [] }

def press (e : Editor) : Key → Editor
  | .char c => e.insert c
  | .enter => e.splitLine
  | .backspace => e.deleteBefore
  | .delete => e.deleteAfter
  | .left => e.moveLeft
  | .right => e.moveRight
  | .up => e.moveUp
  | .down => e.moveDown
  | .home => e.moveHome
  | .lineEnd => e.moveEnd
  | .tab | .escape | .function _ => e

/-- an editor shows the lines it was given -/
theorem lines_ofLines (ls : List Line) : (ofLines ls).lines = if ls = [] then [[]] else ls := by
  cases ls <;> rfl

end Editor

instance : TextArea Editor Key where
  ofLines := Editor.ofLines
  lines := Editor.lines
  input e k := (e.press k, (e.press k).lines != e.lines)

instance : LawfulTextArea Editor where
  lines_ofLines := Editor.lines_ofLines
  changed_iff _ _ := bne_iff_ne

end MemorySetup.Interactive
