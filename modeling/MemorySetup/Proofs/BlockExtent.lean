/-
The extent of a block: where it starts and stops, and which lines it has.

The search for a block has three stages, each a search for a first line: the line to search from (`SearchedFrom`), the
first line from there on that loads the upper half of `a0`, and the first site of the call from there on. `Delimited`
says what these make of a block, its lines included, and `find?_iff_delimited` that this is the block that is found.

`block_extent` is the result. It also says when a block is found: exactly if every stage finds a line. A block that is
found ends at a site of its call, so the call itself is found as well, at that site or an earlier one.
-/
import Mathlib.Order.Nat
import MemorySetup.Proofs.BlockBounds

namespace MemorySetup

open Text

/-- the line from which the start of a block is looked for: the first one for the thread setup, and the first that
mentions a kernel call for every other call -/
def SearchedFrom (ls : List Line) (target : CallNumber) (origin : Nat) : Prop :=
  if target = CallNumber.setupThread then origin = 0 else IsLeast {i | MentionsAt ls i} origin

/-- a block of a listing with the bounds that a call gives it, searched from line `origin` -/
structure Delimited (ls : List Line) (target : CallNumber) (origin : Nat) (block : CodeBlock) : Prop where
  start : IsLeast {i | origin ≤ i ∧ LoadsUpperAt ls i} block.start
  stop : IsLeast {i | block.start ≤ i ∧ IsCallSite ls i target} block.stop
  length : block.lines.length = block.stop - block.start + 1
  line : ∀ j < block.lines.length, block.lines[j]? = ls[block.start + j]?.map trim

/-! ## The lines of a block -/

section Lines

variable {ls : List Line} {start stop : Nat}

theorem length_ofBounds (hstart : start ≤ stop) (hstop : stop < ls.length) :
    (CodeBlock.ofBounds ls start stop).lines.length = stop - start + 1 := by
  simp only [CodeBlock.ofBounds, List.length_map, List.length_drop, List.length_take]
  omega

theorem getElem?_ofBounds {j : Nat} (hj : start + j ≤ stop) :
    (CodeBlock.ofBounds ls start stop).lines[j]? = ls[start + j]?.map trim := by
  simp only [CodeBlock.ofBounds, List.getElem?_map, List.getElem?_drop]
  rw [List.getElem?_take_of_lt (Nat.lt_succ_of_le hj)]

/-- a block is settled by its bounds and the lines between them -/
theorem eq_ofBounds {block : CodeBlock} (hstart : block.start ≤ block.stop) (hstop : block.stop < ls.length)
    (hlength : block.lines.length = block.stop - block.start + 1)
    (hline : ∀ j < block.lines.length, block.lines[j]? = ls[block.start + j]?.map trim) :
    block = CodeBlock.ofBounds ls block.start block.stop := by
  have hlines : block.lines = (CodeBlock.ofBounds ls block.start block.stop).lines := by
    apply List.ext_getElem?
    intro j
    rcases Nat.lt_or_ge j block.lines.length with hj | hj
    · rw [hline j hj, getElem?_ofBounds (by omega)]
    · rw [List.getElem?_eq_none hj, List.getElem?_eq_none (by rw [length_ofBounds hstart hstop]; omega)]
  exact congrArg (CodeBlock.mk block.start block.stop) hlines

end Lines

/-! ## The stages of the search -/

section Stages

variable {ls : List Line} {target : CallNumber}

theorem origin?_eq_some_iff {origin : Nat} :
    CodeBlock.origin? (ls.map Reading.ofLine) target = some origin ↔ SearchedFrom ls target origin := by
  unfold CodeBlock.origin? SearchedFrom
  split_ifs with htarget
  · rw [Option.some.injEq, eq_comm]
  · simp only [findIdx?_eq_some_iff_isLeast, mentionsAt_iff]

theorem inSearch_iff_searchedFrom {i : Nat} :
    InSearch ls target i ↔ ∃ origin, SearchedFrom ls target origin ∧ origin ≤ i := by
  simp only [inSearch_iff, origin?_eq_some_iff]

/-- the lines where a block may start are those from the line on that is searched from -/
theorem SearchedFrom.inSearch {origin : Nat} (h : SearchedFrom ls target origin) (i : Nat) :
    InSearch ls target i ↔ origin ≤ i := by
  rw [inSearch_iff, origin?_eq_some_iff.2 h]
  simp

/-- **The block that is found is the one delimited.** -/
theorem find?_iff_delimited {block : CodeBlock} : CodeBlock.find? ls target = some block ↔
    ∃ origin, SearchedFrom ls target origin ∧ Delimited ls target origin block := by
  rw [find?_block_iff]
  constructor
  · rintro ⟨start, stop, hstart, hstop, rfl⟩
    obtain ⟨origin, horigin, -⟩ := inSearch_iff_searchedFrom.1 hstart.1.1
    simp only [horigin.inSearch] at hstart
    have hle : start ≤ stop := hstop.1.1
    have hlength := length_ofBounds hle hstop.1.2.lt_length
    refine ⟨origin, horigin, hstart, hstop, hlength, fun j hj => getElem?_ofBounds ?_⟩
    omega
  · rintro ⟨origin, horigin, hstart, hstop, hlength, hline⟩
    refine ⟨block.start, block.stop, ?_, hstop, eq_ofBounds hstop.1.1 hstop.1.2.lt_length hlength hline⟩
    simpa only [horigin.inSearch] using hstart

/-- a block is found exactly if every stage of the search finds a line -/
theorem isSome_find?_iff : (CodeBlock.find? ls target).isSome ↔
    ∃ origin, SearchedFrom ls target origin ∧ ∃ start, IsLeast {i | origin ≤ i ∧ LoadsUpperAt ls i} start ∧
      ∃ i, start ≤ i ∧ IsCallSite ls i target := by
  rw [Option.isSome_iff_exists]
  constructor
  · rintro ⟨block, hblock⟩
    obtain ⟨origin, horigin, hstart, hstop, -, -⟩ := find?_iff_delimited.1 hblock
    exact ⟨origin, horigin, block.start, hstart, block.stop, hstop.1⟩
  · rintro ⟨origin, horigin, start, hstart, hsite⟩
    have hstop := Nat.isLeast_find hsite
    refine ⟨CodeBlock.ofBounds ls start (Nat.find hsite), find?_block_iff.2 ⟨start, _, ?_, hstop, rfl⟩⟩
    simpa only [horigin.inSearch] using hstart

end Stages

/-- a call that has a site is found there or before -/
theorem find?_of_isCallSite {text : List Char} {target : CallNumber} {i : Nat}
    (h : IsCallSite (lines text) i target) (lookback : Nat) : ∃ call, SetupCall.find? text target lookback = some call ∧
      call.site ≤ i ∧ call.block? = CodeBlock.find? (lines text) target := by
  cases hsite : firstSite? (lines text) target with
  | none => exact absurd h (firstSite?_eq_none_iff.1 hsite i)
  | some site =>
    refine ⟨callFoundAt (lines text) target lookback site, ?_, (firstSite?_eq_some_iff.1 hsite).2 h, rfl⟩
    rw [find?_eq, hsite]
    rfl

/-- **The extent of a block.** The block of a call is exactly the one delimited: it starts at the first line that loads
the upper half of `a0`, from the line on that is searched from, stops at the first site of the call from there on, and
has the lines between the two, trimmed, both included. There is one exactly if every stage of this search finds a line.
Its start is not after its stop; no line searched before its start loads the upper half of `a0`, and no line of it
before its stop is a site of the call. The call itself is then found with any lookback, at the stop of the block or
before, and reported with this block. -/
theorem block_extent (text : List Char) (target : CallNumber) :
    (∀ block, CodeBlock.find? (lines text) target = some block ↔
      ∃ origin, SearchedFrom (lines text) target origin ∧ Delimited (lines text) target origin block) ∧
    ((CodeBlock.find? (lines text) target).isSome ↔ ∃ origin, SearchedFrom (lines text) target origin ∧
      ∃ start, IsLeast {i | origin ≤ i ∧ LoadsUpperAt (lines text) i} start ∧
        ∃ i, start ≤ i ∧ IsCallSite (lines text) i target) ∧
    ∀ block, CodeBlock.find? (lines text) target = some block →
      block.start ≤ block.stop ∧
      (∀ origin, SearchedFrom (lines text) target origin →
        ∀ i, origin ≤ i → i < block.start → ¬ LoadsUpperAt (lines text) i) ∧
      (∀ i, block.start ≤ i → i < block.stop → ¬ IsCallSite (lines text) i target) ∧
      ∀ lookback, ∃ call, SetupCall.find? text target lookback = some call ∧ call.site ≤ block.stop ∧
        call.block? = some block := by
  refine ⟨fun block => find?_iff_delimited, isSome_find?_iff, fun block hblock => ?_⟩
  obtain ⟨start, stop, hstart, hstop, rfl⟩ := find?_block_iff.1 hblock
  refine ⟨hstop.1.1, fun origin horigin i hi hlt hload => ?_, fun i hi hlt hsite => ?_, fun lookback => ?_⟩
  · exact absurd (hstart.2 ⟨(horigin.inSearch i).2 hi, hload⟩) (Nat.not_le.2 hlt)
  · exact absurd (hstop.2 ⟨hi, hsite⟩) (Nat.not_le.2 hlt)
  · rw [← hblock]
    exact find?_of_isCallSite hstop.1.2 lookback

/-- a thread setup that is made by a mention on the very line that loads `a0` -/
def callOnLoadLines : List Line :=
  [prepareThreadLine,
    [' ', 'l', 'u', 'i', ' ', 'a', '0', ',', '0', 'x', '1', '0', ' ', '#'] ++ syscallWord ++ ['\t']]

/-- its block is that one line, and the line that prepares the call is before it -/
theorem block_extent_callOnLoad : ∃ block,
    CodeBlock.find? (lines (unlines callOnLoadLines)) CallNumber.setupThread = some block ∧
      block.start = 1 ∧ block.stop = 1 ∧ block.lines.length = 1 ∧
      Delimited (lines (unlines callOnLoadLines)) CallNumber.setupThread 0 block ∧
      ∃ call, SetupCall.find? (unlines callOnLoadLines) CallNumber.setupThread 5 = some call ∧ call.site ≤ 1 := by
  have hbounds : (CodeBlock.find? (lines (unlines callOnLoadLines)) CallNumber.setupThread).map
      (fun block => (block.start, block.stop)) = some (1, 1) := by decide +kernel
  obtain ⟨block, hblock, hview⟩ := Option.map_eq_some_iff.1 hbounds
  obtain ⟨hstart, hstop⟩ := Prod.mk.inj hview
  obtain ⟨hdelimited, -, hfound⟩ := block_extent (unlines callOnLoadLines) CallNumber.setupThread
  obtain ⟨origin, horigin, hblock'⟩ := (hdelimited block).1 hblock
  obtain rfl : origin = 0 := by simpa [SearchedFrom] using horigin
  obtain ⟨call, hcall, hsite, -⟩ := (hfound block hblock).2.2.2 5
  refine ⟨block, hblock, hstart, hstop, ?_, hblock', call, hcall, hstop ▸ hsite⟩
  rw [hblock'.length, hstart, hstop]

end MemorySetup
