/-
Displays and events as a terminal writes them.

A display is written as control sequences: the cursor goes home, each row follows with its colours, and the cursor ends
in the editor. What the terminal sends is cut into keys; a known sequence counts as its key, and an escape character
that starts none is the Escape key.
-/
import MemorySetup.Interactive.Display

namespace MemorySetup.Interactive.Ansi

open Text

def escape : Char := '\x1b'

def sequence (body : String) : String :=
  String.ofList [escape, '['] ++ body

def colorCode : Color → String
  | .default => "39"
  | .red => "31"
  | .green => "32"
  | .yellow => "33"
  | .magenta => "35"
  | .cyan => "36"
  | .darkGray => "90"

def cellText (c : Cell) : String :=
  sequence (colorCode c.color ++ "m") ++ String.ofList [c.char]

def rowText (row : Row) : String :=
  String.join (row.map cellText)

def moveTo (p : Position) : String :=
  sequence (decimalText (p.y + 1) ++ ";" ++ decimalText (p.x + 1) ++ "H")

/-- a display, as it is written to the terminal -/
def render (d : Display) : String :=
  sequence "H" ++ "\r\n".intercalate (d.rows.map rowText) ++ sequence "39m" ++ moveTo d.cursor

/-- the keys that send a sequence -/
def keySequences : List (List Char × Key) :=
  [(['[', 'A'], .up), (['[', 'B'], .down), (['[', 'C'], .right), (['[', 'D'], .left), (['[', 'H'], .home),
    (['[', 'F'], .lineEnd), (['[', '1', '~'], .home), (['[', '4', '~'], .lineEnd), (['[', '3', '~'], .delete),
    (['[', '2', '0', '~'], .function 9)]

/-- the key that sends a single character -/
def keyOfChar? (c : Char) : Option Key :=
  if c = '\r' ∨ c = '\n' then some .enter
  else if c = '\t' then some .tab
  else if c = escape then some .escape
  else if c = '\x7f' ∨ c = '\x08' then some .backspace
  else if c < ' ' then none
  else some (.char c)

def keysOf (s : List Char) : List Key :=
  match s with
  | [] => []
  | c :: rest =>
    match if c = escape then keySequences.find? fun q => q.1.isPrefixOf rest else none with
    | some (q, k) => k :: keysOf (rest.drop q.length)
    | none => (keyOfChar? c).toList ++ keysOf rest
termination_by s.length
decreasing_by all_goals simp only [List.length_drop, List.length_cons]; omega

def eventsOf (bytes : List UInt8) : List Event :=
  (keysOf (readUtf8Lossy bytes)).map .press

end MemorySetup.Interactive.Ansi
