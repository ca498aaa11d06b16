/-
Text areas.

A text area holds a text and takes keystrokes. What it does with them is its own affair: `input` gives the text area
after a keystroke, and tells whether the text was changed. `LawfulTextArea` says what a session relies on: a new text
area holds the lines it is given, or one empty line if there are none, and `input` tells the truth.
-/
import MemorySetup.Interactive.Key
import MemorySetup.Text.Lines

namespace MemorySetup.Interactive

open Text

/-- a text that takes keystrokes -/
class TextArea (α : Type) (κ : outParam Type) where
  /-- a text area with the given lines -/
  ofLines : List Line → α
  /-- the lines of the text -/
  lines : α → List Line
  /-- take a keystroke, and tell whether it changed the text -/
  input : α → κ → α × Bool

/-- the text as a whole -/
def TextArea.text {α κ : Type} [TextArea α κ] (area : α) : List Char :=
  unlines (TextArea.lines area)

/-- what a session relies on -/
class LawfulTextArea (α : Type) {κ : outParam Type} [TextArea α κ] : Prop where
  lines_ofLines (ls : List Line) : TextArea.lines (TextArea.ofLines ls : α) = if ls = [] then [[]] else ls
  changed_iff (area : α) (k : κ) :
    (TextArea.input area k).2 = true ↔ TextArea.lines (TextArea.input area k).1 ≠ TextArea.lines area

end MemorySetup.Interactive
