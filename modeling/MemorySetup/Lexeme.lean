/-
Lexemes of a listing line.

The code of a line is what stands before its first comment character. It is cut between two neighbours unless the
second continues a word: a word character stays with the word character, minus sign or dollar sign right before it.
So a lexeme is a maximal run of word characters, or a sign with the run (maybe empty) directly after it, or any other
single character. Blanks are single characters of their own, and are left out.
-/
import MemorySetup.Text.Alphanumeric
import MemorySetup.Text.Lines

namespace MemorySetup

open Text

/-- a piece of a line that is read as one token -/
abbrev Lexeme := List Char

/-- characters that words are made of -/
def isWordChar (c : Char) : Bool :=
  isAlphanumeric c || c == '_' || c == '.'

/-- characters that only separate lexemes -/
def isBlank (c : Char) : Bool :=
  c == ' ' || c == '\t' || c == '\r'

/-- characters that start a comment, which runs to the end of the line -/
def startsComment (c : Char) : Bool :=
  c == '#' || c == ';'

/-- signs that take the word after them along -/
def isSign (c : Char) : Bool :=
  c == '-' || c == '$'

/-- the part of a line before its comment -/
def code (line : Line) : List Char :=
  line.takeWhile fun c => !startsComment c

/-- `b` belongs to the lexeme of the character `a` right before it -/
def glued (a b : Char) : Bool :=
  isWordChar b && (isWordChar a || isSign a)

def lexemes (line : Line) : List Lexeme :=
  ((code line).splitBy glued).filter fun l => !l.all isBlank

end MemorySetup
