/-
White space of Unicode, and trimming.

`isWhitespace` holds of the characters with the property `White_Space`. `trim` removes them from both ends of a text
and touches nothing in between (`trim_decomposition`).
-/
import MemorySetup.Text.Alphanumeric

namespace MemorySetup.Text

/-- the white space of Unicode, in ascending order -/
def whitespaceRanges : List CodeRange :=
  [(0x9, 0xD), (0x20, 0x20), (0x85, 0x85), (0xA0, 0xA0), (0x1680, 0x1680), (0x2000, 0x200A), (0x2028, 0x2029),
    (0x202F, 0x202F), (0x205F, 0x205F), (0x3000, 0x3000)]

/-- a white space character, in any script -/
def isWhitespace (c : Char) : Bool :=
  inRanges whitespaceRanges c.toNat

def trimStart (s : List Char) : List Char :=
  s.dropWhile isWhitespace

def trimEnd (s : List Char) : List Char :=
  (trimStart s.reverse).reverse

/-- a text without the white space around it -/
def trim (s : List Char) : List Char :=
  trimEnd (trimStart s)

/-- trimming takes a run of white space away on either side -/
theorem trim_decomposition (s : List Char) :
    ∃ before after, s = before ++ trim s ++ after ∧ before.all isWhitespace ∧ after.all isWhitespace := by
  refine ⟨s.takeWhile isWhitespace, ((trimStart s).reverse.takeWhile isWhitespace).reverse, ?_, ?_, ?_⟩
  · rw [List.append_assoc, trim, trimEnd, trimStart, ← List.reverse_append, List.takeWhile_append_dropWhile,
      List.reverse_reverse, trimStart, List.takeWhile_append_dropWhile]
  · exact List.all_takeWhile
  · rw [List.all_reverse]; exact List.all_takeWhile

end MemorySetup.Text
