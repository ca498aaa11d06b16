/-
Line ends do not matter to what is found in a listing.

A listing and the text that an editor shows of it differ: carriage returns at the ends of lines are gone, and so is an
empty last line. `SameLines` says that two listings have the same lines when these are trimmed, where a line past the
end counts as empty. Such listings have the same readings, and their blocks also show the same lines; so they have the
same found calls (`find?_congr`) and the same report (`ofText_congr`).

`sameLines_shown`: a listing has the same lines as what an editor shows of it.
-/
import MemorySetup.Proofs.SameReadings
import MemorySetup.Report

namespace MemorySetup

open Text

/-! ## Listings with the same lines -/

/-- line `i` without the white space around it; past the end there are empty lines -/
def lineAt (ls : List Line) (i : Nat) : Line :=
  (ls[i]?.map trim).getD []

/-- two listings have the same lines, up to white space around them and empty lines at the end -/
def SameLines (ls other : List Line) : Prop :=
  ∀ i, lineAt ls i = lineAt other i

theorem lineAt_of_getElem? {ls : List Line} {i : Nat} {line : Line} (h : ls[i]? = some line) :
    lineAt ls i = trim line := by
  rw [lineAt, h]
  rfl

theorem lineAt_of_length_le {ls : List Line} {i : Nat} (h : ls.length ≤ i) : lineAt ls i = [] := by
  rw [lineAt, List.getElem?_eq_none h]
  rfl

theorem lineAt_append (ls rest : List Line) (i : Nat) :
    lineAt (ls ++ rest) i = if i < ls.length then lineAt ls i else lineAt rest (i - ls.length) := by
  unfold lineAt
  rw [List.getElem?_append]
  split_ifs <;> rfl

/-- what a line says is read off the trimmed line -/
theorem readingAt_eq (ls : List Line) (i : Nat) : readingAt ls i = Reading.ofLine (lineAt ls i) := by
  unfold readingAt lineAt
  cases ls[i]? with
  | none => rfl
  | some line => exact (ofLine_trim line).symm

namespace SameLines

variable {ls other : List Line}

theorem sameReadings (h : SameLines ls other) : SameReadings ls other := by
  intro i
  rw [readingAt_eq, readingAt_eq, h i]

/-- as far as both listings go, their lines are the same when trimmed -/
theorem map_trim_take (h : SameLines ls other) {n : Nat} (hn : n ≤ ls.length) (hn' : n ≤ other.length) :
    (ls.take n).map trim = (other.take n).map trim := by
  apply List.ext_getElem
  · simp only [List.length_map, List.length_take]
    omega
  · intro i h1 h2
    simp only [List.length_map, List.length_take] at h1 h2
    have hi := h i
    rw [lineAt_of_getElem? (List.getElem?_eq_getElem (by omega)),
      lineAt_of_getElem? (List.getElem?_eq_getElem (by omega))] at hi
    simpa using hi

/-- a block shows the same lines in both listings -/
theorem ofBounds (h : SameLines ls other) {target : CallNumber} {block : CodeBlock}
    (hblock : CodeBlock.find? ls target = some block) : CodeBlock.ofBounds other block.start block.stop = block := by
  obtain ⟨start, stop, -, hstop, rfl⟩ := find?_block_iff.1 hblock
  -- the block ends at a call, so it lies within both listings
  have hsite : IsCallSite ls stop target := hstop.1.2
  have hsite' : IsCallSite other stop target := (h.sameReadings.isCallSite stop target).1 hsite
  simp only [CodeBlock.ofBounds, List.map_drop, h.map_trim_take hsite.lt_length hsite'.lt_length]

theorem block (h : SameLines ls other) (target : CallNumber) :
    CodeBlock.find? ls target = CodeBlock.find? other target := by
  rw [h.sameReadings.block]
  cases hblock : CodeBlock.find? ls target with
  | none => rfl
  | some block => exact congrArg some (h.ofBounds hblock).symm

end SameLines

/-- **The same lines have the same found calls**, with the same blocks. -/
theorem find?_congr {text other : List Char} (h : SameLines (lines text) (lines other)) (target : CallNumber)
    (lookback : Nat) : SetupCall.find? text target lookback = SetupCall.find? other target lookback := by
  rw [h.sameReadings.find?]
  cases hfound : SetupCall.find? text target lookback with
  | none => rfl
  | some call =>
    have hblock : call.block? = CodeBlock.find? (lines text) target := by
      rw [find?_eq] at hfound
      obtain ⟨i, -, rfl⟩ := Option.map_eq_some_iff.1 hfound
      rfl
    simp only [Option.map_some, hblock, ← h.sameReadings.block, ← h.block]
    rw [← hblock]

/-- the same lines have the same report -/
theorem ofText_congr {text other : List Char} (h : SameLines (lines text) (lines other)) (lookback : Nat) :
    MemoryReport.ofText text lookback = MemoryReport.ofText other lookback := by
  rw [MemoryReport.ofText, MemoryReport.ofText, find?_congr h, find?_congr h]

/-! ## The lines that an editor shows -/

theorem trim_concat {s : List Char} {c : Char} (h : isWhitespace c = true) : trim (s ++ [c]) = trim s := by
  have hend : ∀ t : List Char, trimEnd (t ++ [c]) = trimEnd t := by
    intro t
    simp [trimEnd, trimStart, h]
  rw [trim, trimStart, List.dropWhile_append]
  split_ifs with hs
  · have hnil : trimStart s = [] := List.isEmpty_iff.1 hs
    have hc : List.dropWhile isWhitespace [c] = [] := by simp [h]
    rw [trim, hnil, hc]
  · exact hend _

/-- a carriage return at the end of a line is trimmed anyway -/
theorem trim_dropReturn (line : Line) : trim (dropReturn line) = trim line := by
  unfold dropReturn
  split_ifs with hreturn
  · conv_rhs => rw [← List.dropLast_append_getLast? _ hreturn]
    exact (trim_concat (by decide)).symm
  · rfl

theorem lineAt_map_dropReturn (ls : List Line) (i : Nat) : lineAt (ls.map dropReturn) i = lineAt ls i := by
  unfold lineAt
  rw [List.getElem?_map, Option.map_map]
  cases ls[i]? with
  | none => rfl
  | some line => exact trim_dropReturn line

/-- one empty line is as good as none -/
theorem lineAt_empty (i : Nat) : lineAt [[]] i = [] := by
  cases i <;> rfl

theorem sameLines_editorLines (text : List Char) : SameLines (lines text) (editorLines text) := by
  intro i
  obtain ⟨init, rest, hcut⟩ : ∃ init rest, lines text = init ++ [rest] :=
    ⟨_, _, (List.dropLast_append_getLast (lines_ne_nil text)).symm⟩
  simp only [editorLines, hcut, List.dropLast_concat, List.getLast?_concat, Option.getD_some]
  rw [lineAt_append, lineAt_append, List.length_map, lineAt_map_dropReturn]
  split_ifs with hi hempty
  · rfl
  · rw [List.isEmpty_iff.1 hempty, lineAt_empty, lineAt_of_length_le (Nat.zero_le _)]
  · rfl

theorem newline_notMem_of_mem_lines {text : List Char} {line : Line} (h : line ∈ lines text) : '\n' ∉ line := by
  induction text generalizing line with
  | nil =>
    obtain rfl := List.mem_singleton.1 h
    exact List.not_mem_nil
  | cons c text ih =>
    rw [lines, List.splitOn_cons_eq_if_modifyHead] at h
    obtain ⟨first, rest, hcut⟩ := List.exists_cons_of_ne_nil (lines_ne_nil text)
    rw [lines] at hcut
    split_ifs at h with hc
    · rcases List.mem_cons.1 h with rfl | hline
      · exact List.not_mem_nil
      · exact ih hline
    · rw [hcut, List.modifyHead_cons] at h
      rcases List.mem_cons.1 h with rfl | hline
      · have hfirst : '\n' ∉ first := ih (by rw [lines, hcut]; exact List.mem_cons_self)
        have hne : '\n' ≠ c := fun heq => hc (by simp [← heq])
        exact List.not_mem_cons_of_ne_of_not_mem hne hfirst
      · exact ih (by rw [lines, hcut]; exact List.mem_cons_of_mem _ hline)

theorem mem_of_mem_dropReturn {line : Line} {c : Char} (h : c ∈ dropReturn line) : c ∈ line := by
  unfold dropReturn at h
  split_ifs at h
  · exact List.dropLast_subset _ h
  · exact h

theorem newline_notMem_of_mem_editorLines {text : List Char} {line : Line} (h : line ∈ editorLines text) :
    '\n' ∉ line := by
  rcases List.mem_append.1 h with hended | hrest
  · obtain ⟨cut, hcut, rfl⟩ := List.mem_map.1 hended
    intro hmem
    exact newline_notMem_of_mem_lines (List.dropLast_subset _ hcut) (mem_of_mem_dropReturn hmem)
  · split_ifs at hrest with hempty
    · cases hrest
    · obtain rfl := List.mem_singleton.1 hrest
      cases hlast : (lines text).getLast? with
      | none => exact List.not_mem_nil
      | some rest => exact newline_notMem_of_mem_lines (List.mem_of_getLast? hlast)

/-- **What an editor shows.** A listing has the same lines as the text that an editor shows of it, which is one empty
line if the listing has none. -/
theorem sameLines_shown (text : List Char) :
    SameLines (lines text) (lines (unlines (if editorLines text = [] then [[]] else editorLines text))) := by
  split_ifs with hnil
  · intro i
    have hempty : lines (unlines [[]]) = [[]] := lines_unlines (by simp) (by simp)
    rw [sameLines_editorLines text i, hnil, hempty, lineAt_empty, lineAt_of_length_le (Nat.zero_le i)]
  · rw [lines_unlines (fun _ => newline_notMem_of_mem_editorLines) hnil]
    exact sameLines_editorLines text

end MemorySetup
