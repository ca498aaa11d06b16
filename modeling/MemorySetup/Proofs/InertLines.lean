/-
Lines that say nothing can be put in anywhere, or almost.

A line that has no instruction and does not mention a kernel call prepares no call either (`callNumber?_eq_none`); it
reads like an empty line. Put in before line `k`, it moves the lines from `k` on down by one (`moved`). Two things in a
listing depend on neighbouring lines, and these must not be torn apart: a call and the line that prepares it, and a
thread setup and the move of the stack pointer right after it. Otherwise (`Fits`)
- the instructions and the call sites are those of the old listing, moved: `instructionAt?_moved`, `Fits.callSite`;
- so a step of the run is the old step (`Fits.onLine`, `Fits.afterLine`), the new line is no step at all
  (`reaching_inserted`), and the run reaches each moved line with the registers it had before (`Fits.reaching`);
- the first lines of their kinds are the old ones, moved (`isLeast_moved`), and with them the bounds of a block.

`find?_insert_inert` is the result: the same registers are found, and site and block are moved.
-/
import MemorySetup.Proofs.LineEnds
import MemorySetup.Proofs.LineReaders

namespace MemorySetup

open Text

/-! ## Moved lines -/

/-- where line `i` stands once a line is put in before line `k` -/
def moved (k i : Nat) : Nat :=
  if i < k then i else i + 1

section Moved

variable {k i j : Nat}

theorem moved_of_lt (h : i < k) : moved k i = i := if_pos h

theorem moved_of_le (h : k ≤ i) : moved k i = i + 1 := if_neg (by omega)

theorem moved_le_moved : moved k i ≤ moved k j ↔ i ≤ j := by
  unfold moved
  split_ifs <;> omega

theorem exists_moved (h : j ≠ k) : ∃ i, moved k i = j := by
  rcases Nat.lt_or_gt_of_ne h with hlt | hgt
  · exact ⟨j, moved_of_lt hlt⟩
  · exact ⟨j - 1, by rw [moved_of_le (by omega)]; omega⟩

/-- what holds of the moved lines and not of the new one holds first of the first line it held of -/
theorem isLeast_moved {old new : Nat → Prop} (h : ∀ i, new (moved k i) ↔ old i) (hk : ¬ new k) :
    IsLeast {i | new i} j ↔ ∃ i, IsLeast {i | old i} i ∧ moved k i = j := by
  constructor
  · rintro ⟨hj, hleast⟩
    obtain ⟨i, rfl⟩ := exists_moved (k := k) (j := j) fun heq => hk (heq ▸ hj)
    exact ⟨i, ⟨(h i).1 hj, fun m hm => moved_le_moved.1 (hleast ((h m).2 hm))⟩, rfl⟩
  · rintro ⟨i, ⟨hi, hleast⟩, rfl⟩
    refine ⟨(h i).2 hi, fun m hm => ?_⟩
    obtain ⟨n, rfl⟩ := exists_moved (k := k) (j := m) fun heq => hk (heq ▸ hm)
    exact moved_le_moved.2 (hleast ((h n).1 hm))

end Moved

/-! ## Inert lines -/

/-- a line that prepares a call has an instruction -/
theorem callNumber?_eq_none {line : Line} (h : Instruction.ofLine? line = none) : callNumber? line = none := by
  refine Option.eq_none_iff_forall_ne_some.2 fun number hnumber => ?_
  rw [instruction_of_callNumber? hnumber] at h
  cases h

/-- a line says nothing: it has no instruction and does not mention a kernel call -/
structure Inert (line : Line) : Prop where
  instruction : Instruction.ofLine? line = none
  mention : mentionsSyscall line = false

/-- a line can be put in before line `k`: line `k` is no call, and no move of the stack pointer after a thread setup -/
structure Fits (ls : List Line) (k : Nat) : Prop where
  le_length : k ≤ ls.length
  call : ∀ number, ¬ IsCallSite ls k number
  move : ¬ (IsCallSite ls (k - 1) CallNumber.setupThread ∧
    instructionAt? ls k = some (.daddu Register.sp Register.v0 Register.zero))

section Inserted

variable {ls : List Line} {k : Nat} {extra : Line}

theorem getElem?_moved (ls : List Line) (k : Nat) (extra : Line) (i : Nat) :
    (ls.insertIdx k extra)[moved k i]? = ls[i]? := by
  rw [List.getElem?_insertIdx]
  rcases Nat.lt_or_ge i k with hlt | hge
  · rw [moved_of_lt hlt, if_pos hlt]
  · rw [moved_of_le hge, if_neg (by omega), if_neg (by omega), Nat.add_sub_cancel]

theorem getElem?_inserted (hfits : Fits ls k) : (ls.insertIdx k extra)[k]? = some extra := by
  rw [List.getElem?_insertIdx, if_neg (Nat.lt_irrefl k), if_pos rfl, if_pos hfits.le_length]

/-! ### The new line -/

theorem instructionAt?_inserted (hfits : Fits ls k) (hextra : Inert extra) :
    instructionAt? (ls.insertIdx k extra) k = none := by
  rw [instructionAt?, getElem?_inserted hfits]
  exact hextra.instruction

theorem not_mentionsAt_inserted (hfits : Fits ls k) (hextra : Inert extra) :
    ¬ MentionsAt (ls.insertIdx k extra) k := by
  rw [MentionsAt, getElem?_inserted hfits]
  simp [hextra.mention]

theorem not_isCallSite_inserted (hfits : Fits ls k) (hextra : Inert extra) (number : CallNumber) :
    ¬ IsCallSite (ls.insertIdx k extra) k number :=
  fun h => not_mentionsAt_inserted hfits hextra h.2.1

/-- the new line changes no register -/
theorem reaching_inserted (hfits : Fits ls k) (hextra : Inert extra) :
    reaching (ls.insertIdx k extra) (k + 1) = reaching (ls.insertIdx k extra) k := by
  have hcall := not_isCallSite_inserted hfits hextra CallNumber.setupThread
  simp only [reaching, onLine, afterLine, instructionAt?_inserted hfits hextra, Option.elim_none, hcall, if_false,
    false_and]

/-! ### The moved lines -/

theorem instructionAt?_moved (ls : List Line) (k : Nat) (extra : Line) (i : Nat) :
    instructionAt? (ls.insertIdx k extra) (moved k i) = instructionAt? ls i := by
  rw [instructionAt?, instructionAt?, getElem?_moved]

theorem mentionsAt_moved {i : Nat} :
    MentionsAt (ls.insertIdx k extra) (moved k i) ↔ MentionsAt ls i := by
  rw [MentionsAt, MentionsAt, getElem?_moved]

theorem Fits.callSite (hfits : Fits ls k) (hextra : Inert extra) (i : Nat) (number : CallNumber) :
    IsCallSite (ls.insertIdx k extra) (moved k i) number ↔ IsCallSite ls i number := by
  rcases Nat.lt_trichotomy i k with hlt | heq | hgt
  · have hbefore := getElem?_moved ls k extra (i - 1)
    have hline := getElem?_moved ls k extra i
    rw [moved_of_lt (by omega)] at hbefore hline
    rw [moved_of_lt hlt, IsCallSite, IsCallSite, hbefore, hline]
  · -- the line that follows the new one is not a call, and was not one before
    subst heq
    refine iff_of_false (fun h => ?_) (hfits.call number)
    have hnumber := h.2.2
    rw [moved_of_le le_rfl, Nat.add_sub_cancel, getElem?_inserted hfits, Option.bind_some,
      callNumber?_eq_none hextra.instruction] at hnumber
    cases hnumber
  · have hbefore := getElem?_moved ls k extra (i - 1)
    have hline := getElem?_moved ls k extra i
    rw [moved_of_le (by omega), Nat.sub_add_cancel (by omega)] at hbefore
    rw [moved_of_le hgt.le] at hline
    rw [moved_of_le hgt.le, IsCallSite, IsCallSite, Nat.add_sub_cancel, hbefore, hline]
    exact and_congr_left fun _ => ⟨fun _ => by omega, fun _ => by omega⟩

theorem Fits.onLine (hfits : Fits ls k) (hextra : Inert extra) (i : Nat) (regs : RegisterFile) :
    onLine (ls.insertIdx k extra) (moved k i) regs = onLine ls i regs := by
  simp only [MemorySetup.onLine, instructionAt?_moved, hfits.callSite hextra]

theorem Fits.afterLine (hfits : Fits ls k) (hextra : Inert extra) (i : Nat) (regs : RegisterFile) :
    afterLine (ls.insertIdx k extra) (moved k i) regs = afterLine ls i regs := by
  simp only [MemorySetup.afterLine, hfits.callSite hextra]
  by_cases hnext : i + 1 = k
  · -- the new line separates the two, so there must be no move on line `k`
    have hnew : instructionAt? (ls.insertIdx k extra) (moved k i + 1) = none := by
      rw [moved_of_lt (by omega), hnext]
      exact instructionAt?_inserted hfits hextra
    have hmove := hfits.move
    rw [← hnext, Nat.add_sub_cancel] at hmove
    rw [if_neg (by simp [hnew]), if_neg hmove]
  · have hnew : moved k i + 1 = moved k (i + 1) := by
      unfold moved
      split_ifs <;> omega
    rw [hnew, instructionAt?_moved]

/-- **The run reaches a moved line with the registers it had before.** -/
theorem Fits.reaching (hfits : Fits ls k) (hextra : Inert extra) (i : Nat) :
    reaching (ls.insertIdx k extra) (moved k i) = reaching ls i := by
  have hskip := reaching_inserted hfits hextra
  induction i with
  | zero =>
    rcases Nat.eq_zero_or_pos k with rfl | hk
    · rw [moved_of_le le_rfl, hskip]
      rfl
    · rw [moved_of_lt hk]
      rfl
  | succ i ih =>
    have hstep : MemorySetup.reaching (ls.insertIdx k extra) (moved k (i + 1)) =
        MemorySetup.reaching (ls.insertIdx k extra) (moved k i + 1) := by
      by_cases hnext : i + 1 = k
      · rw [moved_of_le hnext.ge, moved_of_lt (by omega), hnext, hskip]
      · congr 1
        unfold moved
        split_ifs <;> omega
    rw [hstep, MemorySetup.reaching, MemorySetup.reaching, ih, hfits.onLine hextra, hfits.afterLine hextra]

theorem Fits.registersAt (hfits : Fits ls k) (hextra : Inert extra) (i : Nat) :
    registersAt (ls.insertIdx k extra) (moved k i) = registersAt ls i := by
  rw [MemorySetup.registersAt, MemorySetup.registersAt, hfits.reaching hextra, hfits.onLine hextra]

/-! ### First sites and blocks -/

theorem Fits.firstSite? (hfits : Fits ls k) (hextra : Inert extra) (target : CallNumber) :
    firstSite? (ls.insertIdx k extra) target = (firstSite? ls target).map (moved k) := by
  refine Option.ext fun j => ?_
  rw [Option.map_eq_some_iff, firstSite?_eq_some_iff,
    isLeast_moved (fun i => hfits.callSite hextra i target) (not_isCallSite_inserted hfits hextra target)]
  simp only [firstSite?_eq_some_iff]

theorem Fits.inSearch (hfits : Fits ls k) (hextra : Inert extra) (target : CallNumber) (i : Nat) :
    InSearch (ls.insertIdx k extra) target (moved k i) ↔ InSearch ls target i := by
  refine or_congr_right ⟨?_, ?_⟩
  · rintro ⟨j, hj, hmention⟩
    obtain ⟨m, rfl⟩ := exists_moved (k := k) (j := j) fun heq =>
      not_mentionsAt_inserted hfits hextra (heq ▸ hmention)
    exact ⟨m, moved_le_moved.1 hj, mentionsAt_moved.1 hmention⟩
  · rintro ⟨m, hm, hmention⟩
    exact ⟨moved k m, moved_le_moved.2 hm, mentionsAt_moved.2 hmention⟩

/-- the bounds of a block are those of the old block, moved -/
theorem Fits.block (hfits : Fits ls k) (hextra : Inert extra) (target : CallNumber) :
    CodeBlock.find? (ls.insertIdx k extra) target = (CodeBlock.find? ls target).map fun block =>
      CodeBlock.ofBounds (ls.insertIdx k extra) (moved k block.start) (moved k block.stop) := by
  have hstart : ∀ j, IsLeast {i | InSearch (ls.insertIdx k extra) target i ∧ LoadsUpperAt (ls.insertIdx k extra) i} j ↔
      ∃ i, IsLeast {i | InSearch ls target i ∧ LoadsUpperAt ls i} i ∧ moved k i = j := by
    intro j
    refine isLeast_moved (fun i => ?_) fun h => ?_
    · rw [hfits.inSearch hextra, LoadsUpperAt, LoadsUpperAt, instructionAt?_moved]
    · obtain ⟨-, upper, hupper⟩ := h
      rw [instructionAt?_inserted hfits hextra] at hupper
      cases hupper
  have hstop : ∀ start j, IsLeast {i | moved k start ≤ i ∧ IsCallSite (ls.insertIdx k extra) i target} j ↔
      ∃ i, IsLeast {i | start ≤ i ∧ IsCallSite ls i target} i ∧ moved k i = j := by
    intro start j
    refine isLeast_moved (fun i => ?_) fun h => not_isCallSite_inserted hfits hextra target h.2
    rw [moved_le_moved, hfits.callSite hextra]
  refine Option.ext fun block => ?_
  simp only [Option.map_eq_some_iff, find?_block_iff]
  constructor
  · rintro ⟨_, _, hnewStart, hnewStop, rfl⟩
    obtain ⟨start, hs, rfl⟩ := (hstart _).1 hnewStart
    obtain ⟨stop, ht, rfl⟩ := (hstop start _).1 hnewStop
    exact ⟨CodeBlock.ofBounds ls start stop, ⟨start, stop, hs, ht, rfl⟩, rfl⟩
  · rintro ⟨_, ⟨start, stop, hs, ht, rfl⟩, rfl⟩
    exact ⟨moved k start, moved k stop, (hstart _).2 ⟨start, hs, rfl⟩, (hstop start _).2 ⟨stop, ht, rfl⟩, rfl⟩

end Inserted

/-- the lines of a listing with a line put in are found again in its text -/
theorem lines_unlines_insertIdx (text : List Char) {k : Nat} {extra : Line} (hk : k ≤ (lines text).length)
    (hextra : '\n' ∉ extra) : lines (unlines ((lines text).insertIdx k extra)) = (lines text).insertIdx k extra := by
  apply lines_unlines
  · intro line hline
    rcases (List.mem_insertIdx hk).1 hline with rfl | hline
    · exact hextra
    · exact newline_notMem_of_mem_lines hline
  · exact List.ne_nil_of_mem ((List.mem_insertIdx hk).2 (Or.inl rfl))

/-- **Inert lines.** A line without an instruction that does not mention a kernel call is put in before line `k`, or at
the end, where it tears apart neither a call and its number nor a thread setup and the move of the stack pointer. Then
a call is found exactly if it was found before, with the same registers; its line and the bounds of its block are moved
by one exactly if they were at line `k` or after. -/
theorem find?_insert_inert (text : List Char) (k : Nat) (extra : Line) (hfits : Fits (lines text) k)
    (hextra : Inert extra) (hline : '\n' ∉ extra) (target : CallNumber) (lookback : Nat) :
    (SetupCall.find? (unlines ((lines text).insertIdx k extra)) target lookback = none ↔
      SetupCall.find? text target lookback = none) ∧
    ∀ call, SetupCall.find? text target lookback = some call →
      ∃ found, SetupCall.find? (unlines ((lines text).insertIdx k extra)) target lookback = some found ∧
        found.site = moved k call.site ∧ found.registers = call.registers ∧
        found.block?.map CodeBlock.bounds = call.block?.map fun block => (moved k block.start, moved k block.stop) := by
  have hfound : SetupCall.find? (unlines ((lines text).insertIdx k extra)) target lookback =
      (firstSite? (lines text) target).map fun i =>
        callFoundAt ((lines text).insertIdx k extra) target lookback (moved k i) := by
    rw [find?_eq, lines_unlines_insertIdx text hfits.le_length hline, hfits.firstSite? hextra, Option.map_map]
    rfl
  rw [hfound, find?_eq]
  refine ⟨by rw [Option.map_eq_none_iff, Option.map_eq_none_iff], fun call hcall => ?_⟩
  obtain ⟨i, hi, rfl⟩ := Option.map_eq_some_iff.1 hcall
  refine ⟨callFoundAt ((lines text).insertIdx k extra) target lookback (moved k i), by rw [hi]; rfl, rfl,
    hfits.registersAt hextra i, ?_⟩
  simp only [callFoundAt, hfits.block hextra, Option.map_map]
  rfl

/-- setup code for both calls, in which the stack pointer is moved right after the thread setup -/
def bothSetupsLines : List Line :=
  [['l', 'u', 'i', ' ', 'a', '1', ',', '0', 'x', '2', '0', '0'],
    prepareThreadLine, syscallWord,
    moveStackLine,
    ['l', 'u', 'i', ' ', 'a', '0', ',', '0', 'x', '6', '0'],
    prepareHeapLine, syscallWord]

/-- an idle instruction inside the block of the heap setup moves the end of the block and not its start -/
theorem find?_insert_inert_nop : Fits (lines (unlines bothSetupsLines)) 5 ∧ Inert ['n', 'o', 'p'] ∧
    ∃ call found, SetupCall.find? (unlines bothSetupsLines) CallNumber.setupHeap 5 = some call ∧ call.site = 6 ∧
      SetupCall.find? (unlines ((lines (unlines bothSetupsLines)).insertIdx 5 ['n', 'o', 'p'])) CallNumber.setupHeap 5 =
        some found ∧ found.site = 7 ∧ found.registers = call.registers ∧
      found.block?.map CodeBlock.bounds = some (4, 7) := by
  have hview : (SetupCall.find? (unlines bothSetupsLines) CallNumber.setupHeap 5).map
      (fun call => (call.site, call.block?.map CodeBlock.bounds)) = some (6, some (4, 6)) := by decide +kernel
  obtain ⟨call, hcall, hcallview⟩ := Option.map_eq_some_iff.1 hview
  simp only [Prod.mk.injEq, Option.map_eq_some_iff] at hcallview
  obtain ⟨hsite, block, hblock, hbounds⟩ := hcallview
  have hfits : Fits (lines (unlines bothSetupsLines)) 5 := by
    have hprepared : (lines (unlines bothSetupsLines))[5]?.any mentionsSyscall = false := by decide +kernel
    refine ⟨by decide +kernel, fun number h => ?_, by decide +kernel⟩
    exact absurd h.2.1 (by simp [hprepared])
  have hinert : Inert ['n', 'o', 'p'] := ⟨by decide +kernel, by decide +kernel⟩
  obtain ⟨found, hfound, hmoved, hregs, hblocks⟩ :=
    (find?_insert_inert (unlines bothSetupsLines) 5 ['n', 'o', 'p'] hfits hinert (by decide) CallNumber.setupHeap 5).2
      call hcall
  refine ⟨hfits, hinert, call, found, hcall, hsite, hfound, by rw [hmoved, hsite]; decide, hregs, ?_⟩
  obtain ⟨hstart, hstop⟩ : block.start = 4 ∧ block.stop = 6 := by simpa [CodeBlock.bounds] using hbounds
  rw [hblocks, hblock, Option.map_some, hstart, hstop]
  decide

end MemorySetup
