/-
Lines of a text.

A text is cut at every line feed (`lines`), so `n` line feeds make `n + 1` lines, the last of which may be empty.
`unlines` joins lines by line feeds, and lines without line feeds are found again in their text (`lines_unlines`).
`editorLines` is the other reading, in which a line feed ends a line: a carriage return right before it belongs to the
line end, and after the last line end there is no further line unless it has text.
-/
namespace MemorySetup.Text

abbrev Line := List Char

/-- cut a text at its line feeds -/
def lines (text : List Char) : List Line :=
  text.splitOn '\n'

/-- join lines by line feeds -/
def unlines (ls : List Line) : List Char :=
  List.intercalate ['\n'] ls

/-- a line without the carriage return at its end -/
def dropReturn (line : Line) : Line :=
  if line.getLast? = some '\r' then line.dropLast else line

/-- the lines that line feeds end, and the text after the last of them if there is any -/
def editorLines (text : List Char) : List Line :=
  let cut := lines text
  let rest := cut.getLast?.getD []
  cut.dropLast.map dropReturn ++ (if rest.isEmpty then [] else [rest])

theorem lines_ne_nil (text : List Char) : lines text ≠ [] :=
  List.splitOn_ne_nil '\n' text

/-- lines without line feeds are found again in their text -/
theorem lines_unlines {ls : List Line} (h : ∀ line ∈ ls, '\n' ∉ line) (hne : ls ≠ []) :
    lines (unlines ls) = ls :=
  List.splitOn_intercalate '\n' h hne

end MemorySetup.Text
