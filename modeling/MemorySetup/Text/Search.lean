/-
Occurrence of a word in a text.

`occursIn w s` tries `w` at every position of `s`; `occursIn_iff` says that this is the infix relation. `lowercase`
folds the letters of ASCII and keeps every other character.
-/
namespace MemorySetup.Text

def lowercase (s : List Char) : List Char :=
  s.map Char.toLower

def uppercase (s : List Char) : List Char :=
  s.map Char.toUpper

/-- `w` stands somewhere in the text -/
def occursIn (w : List Char) : List Char → Bool
  | [] => w.isEmpty
  | c :: rest => w.isPrefixOf (c :: rest) || occursIn w rest

/-- a word occurs exactly if it is an infix -/
theorem occursIn_iff {w s : List Char} : occursIn w s = true ↔ w <:+: s := by
  induction s with
  | nil => simp [occursIn]
  | cons c rest ih =>
    rw [occursIn, Bool.or_eq_true, ih, List.isPrefixOf_iff_prefix, List.infix_cons_iff]

end MemorySetup.Text
