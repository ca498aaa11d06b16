/-
The bounds of the block of a call, and the call that the block belongs to.

`find?_block_iff`: a block starts at the first line that loads the upper half of `a0`, among the lines where the search
takes place (`InSearch`), and it ends at the first site of its call from there on.

A found call is taken from its first site, the block from the first site after the block's start. These are two searches
with different starting points, and they need not end at the same line:
- `block_of_later_call`: a heap setup that is made twice is reported with the registers of the first call and the block
  of the second;
- `block_stop_eq_site_iff`: the block ends at the call it is reported with exactly if some line of the search, up to
  that call, loads the upper half of `a0`.
-/
import Mathlib.Data.Nat.Find
import MemorySetup.Proofs.CallSites

namespace MemorySetup

open Text

/-! ## First indices -/

/-- line `i` mentions a kernel call -/
def MentionsAt (ls : List Line) (i : Nat) : Prop :=
  ls[i]?.any mentionsSyscall

instance (ls : List Line) : DecidablePred (MentionsAt ls) := fun i =>
  inferInstanceAs (Decidable (ls[i]?.any mentionsSyscall = true))

/-- line `i` loads the upper half of `a0` -/
def LoadsUpperAt (ls : List Line) (i : Nat) : Prop :=
  ∃ upper, instructionAt? ls i = some (.lui Tracked.a0.register upper)

/-- line `i` is one of those where a block may start: all of them for the thread setup, and those from the first mention
of a kernel call on for every other call -/
def InSearch (ls : List Line) (target : CallNumber) (i : Nat) : Prop :=
  target = CallNumber.setupThread ∨ ∃ k ≤ i, MentionsAt ls k

theorem firstFrom?_eq_some_iff {α : Type} {p : α → Bool} {xs : List α} {start i : Nat} :
    CodeBlock.firstFrom? p xs start = some i ↔ IsLeast {k | start ≤ k ∧ xs[k]?.any p} i := by
  rw [CodeBlock.firstFrom?, Option.map_eq_some_iff]
  constructor
  · rintro ⟨j, hj, rfl⟩
    obtain ⟨hlt, hp, hbefore⟩ := List.findIdx?_eq_some_iff_getElem.1 hj
    rw [List.length_drop] at hlt
    refine ⟨⟨Nat.le_add_right start j, ?_⟩, fun k hk => ?_⟩
    · rw [List.getElem_drop] at hp
      rw [List.getElem?_eq_getElem (by omega)]
      exact hp
    · obtain ⟨hstart, hk⟩ := hk
      by_contra hlt'
      have hk' : k < xs.length := by omega
      have hnot := hbefore (k - start) (by omega)
      simp only [List.getElem_drop, Nat.add_sub_cancel' hstart] at hnot
      rw [List.getElem?_eq_getElem hk'] at hk
      exact hnot hk
  · rintro ⟨⟨hstart, hi⟩, hleast⟩
    have hlt : i < xs.length := by
      by_contra h
      rw [List.getElem?_eq_none (by omega)] at hi
      simp at hi
    refine ⟨i - start, List.findIdx?_eq_some_iff_getElem.2 ⟨?_, ?_, fun k hk hp => ?_⟩, by omega⟩
    · rw [List.length_drop]
      omega
    · rw [List.getElem?_eq_getElem hlt] at hi
      simp only [List.getElem_drop, Nat.add_sub_cancel' hstart]
      exact hi
    · have hmem : start ≤ start + k ∧ xs[start + k]?.any p := by
        rw [List.getElem_drop] at hp
        rw [List.getElem?_eq_getElem (by omega)]
        exact ⟨Nat.le_add_right start k, hp⟩
      have := hleast hmem
      omega

/-- the search from the top -/
theorem findIdx?_eq_some_iff_isLeast {α : Type} {p : α → Bool} {xs : List α} {i : Nat} :
    xs.findIdx? p = some i ↔ IsLeast {k | xs[k]?.any p} i := by
  have h := @firstFrom?_eq_some_iff α p xs 0 i
  simpa [CodeBlock.firstFrom?] using h

/-! ## Bounds of a block -/

theorem calls_eq (ls : List Line) : calls (ls.map Reading.ofLine) = (List.range ls.length).map (callAt? ls) := by
  rw [calls, ← map_call?_snapshotsFrom none RegisterFile.unknown, ← snapshots, ← trimmedReadings_eq, snapshots_eq,
    List.map_map]
  rfl

section Readings

variable {ls : List Line} {i : Nat}

theorem mentionsAt_iff : (ls.map Reading.ofLine)[i]?.any Reading.mentionsSyscall ↔ MentionsAt ls i := by
  rw [List.getElem?_map, MentionsAt]
  cases ls[i]? <;> rfl

theorem loadsUpperAt_iff : (ls.map Reading.ofLine)[i]?.any CodeBlock.startsBlock ↔ LoadsUpperAt ls i := by
  rw [List.getElem?_map, LoadsUpperAt, instructionAt?]
  cases ls[i]? with
  | none => simp
  | some line =>
    simp only [Option.map_some, Option.any_some, Option.bind_some, CodeBlock.startsBlock, Reading.ofLine]
    split
    · rename_i rt upper heq
      simp [heq]
    · rename_i hne
      refine ⟨fun h => absurd h (by decide), ?_⟩
      rintro ⟨upper, h⟩
      exact absurd h (hne _ upper)

theorem isCallSite_calls_iff {target : CallNumber} :
    (calls (ls.map Reading.ofLine))[i]?.any (· == some target) ↔ IsCallSite ls i target := by
  rw [calls_eq, List.getElem?_map]
  by_cases hi : i < ls.length
  · rw [List.getElem?_range hi, isCallSite_iff]
    simp
  · rw [List.getElem?_eq_none (by simpa using hi)]
    refine ⟨fun h => by simp at h, fun h => absurd h.lt_length hi⟩

end Readings

/-- a line lies at or after the origin of the search exactly if it is in the search -/
theorem inSearch_iff {ls : List Line} {target : CallNumber} {i : Nat} :
    InSearch ls target i ↔ ∃ origin, CodeBlock.origin? (ls.map Reading.ofLine) target = some origin ∧ origin ≤ i := by
  unfold CodeBlock.origin? InSearch
  split_ifs with htarget
  · exact ⟨fun _ => ⟨0, rfl, Nat.zero_le i⟩, fun _ => Or.inl htarget⟩
  · simp only [htarget, false_or, findIdx?_eq_some_iff_isLeast, mentionsAt_iff]
    constructor
    · rintro ⟨k, hk, hm⟩
      have hex : ∃ n, MentionsAt ls n := ⟨k, hm⟩
      exact ⟨Nat.find hex, ⟨Nat.find_spec hex, fun n hn => Nat.find_min' hex hn⟩, (Nat.find_min' hex hm).trans hk⟩
    · rintro ⟨origin, horigin, hle⟩
      exact ⟨origin, hle, horigin.1⟩

/-- **The bounds of a block.** -/
theorem find?_block_iff {ls : List Line} {target : CallNumber} {block : CodeBlock} :
    CodeBlock.find? ls target = some block ↔ ∃ start stop,
      IsLeast {i | InSearch ls target i ∧ LoadsUpperAt ls i} start ∧
      IsLeast {i | start ≤ i ∧ IsCallSite ls i target} stop ∧ block = CodeBlock.ofBounds ls start stop := by
  have hstart : ∀ origin start, CodeBlock.origin? (ls.map Reading.ofLine) target = some origin →
      (CodeBlock.firstFrom? CodeBlock.startsBlock (ls.map Reading.ofLine) origin = some start ↔
        IsLeast {i | InSearch ls target i ∧ LoadsUpperAt ls i} start) := by
    intro origin start horigin
    simp only [firstFrom?_eq_some_iff, loadsUpperAt_iff, inSearch_iff, horigin, Option.some.injEq, exists_eq_left']
  have hstop : ∀ start stop, CodeBlock.firstFrom? (· == some target) (calls (ls.map Reading.ofLine)) start = some stop ↔
      IsLeast {i | start ≤ i ∧ IsCallSite ls i target} stop := by
    intro start stop
    simp only [firstFrom?_eq_some_iff, isCallSite_calls_iff]
  simp only [CodeBlock.find?, Option.bind_eq_bind, Option.bind_eq_some_iff, Option.pure_def, Option.some.injEq]
  constructor
  · rintro ⟨origin, horigin, start, hs, stop, ht, rfl⟩
    exact ⟨start, stop, (hstart origin start horigin).1 hs, (hstop start stop).1 ht, rfl⟩
  · rintro ⟨start, stop, hs, ht, rfl⟩
    obtain ⟨origin, horigin, -⟩ := inSearch_iff.1 hs.1.1
    exact ⟨origin, horigin, start, (hstart origin start horigin).2 hs, stop, (hstop start stop).2 ht, rfl⟩

/-! ## The call that a block belongs to -/

/-- a heap setup that is made twice, each time with its own `a0` -/
def heapTwiceLines : List Line :=
  [['l', 'u', 'i', ' ', 'a', '0', ',', '0', 'x', '0', '0', '1', '0'],
    prepareHeapLine, syscallWord,
    ['l', 'u', 'i', ' ', 'a', '0', ',', '0', 'x', '0', '0', '2', '0'],
    prepareHeapLine, syscallWord]

/-- **A block need not belong to the call it is reported with.** The registers are those of the first heap setup, on
line 2, and the block is that of the second, on line 5: the first mention of a kernel call, from which the start of the
block is looked for, is the first setup itself. -/
theorem block_of_later_call : ∃ call block,
    SetupCall.find? (unlines heapTwiceLines) CallNumber.setupHeap 5 = some call ∧ call.block? = some block ∧
      call.site = 2 ∧ call.registers.get .a0 = some 0x00100000 ∧ block.start = 3 ∧ block.stop = 5 ∧
      block.stop ≠ call.site := by
  have hview : (SetupCall.find? (unlines heapTwiceLines) CallNumber.setupHeap 5).map
      (fun call => (call.site, call.registers.get .a0, call.block?.map fun block => (block.start, block.stop))) =
      some (2, some 0x00100000, some (3, 5)) := by decide +kernel
  obtain ⟨call, hcall, hcallview⟩ := Option.map_eq_some_iff.1 hview
  simp only [Prod.mk.injEq, Option.map_eq_some_iff] at hcallview
  obtain ⟨hsite, ha0, block, hblock, hstart, hstop⟩ := hcallview
  exact ⟨call, block, hcall, hblock, hsite, ha0, hstart, hstop, by rw [hstop, hsite]; decide⟩

/-- **The call of a block.** The block that is reported with a call ends at the first site of that call from the start
of the block on, which is the reported call or a later one. It is the reported call exactly if some line up to that
call, among those where the start of a block is looked for, loads the upper half of `a0`. -/
theorem block_stop_eq_site_iff (text : List Char) (target : CallNumber) (lookback : Nat) (call : SetupCall)
    (block : CodeBlock) (hfound : SetupCall.find? text target lookback = some call)
    (hblock : call.block? = some block) :
    IsLeast {i | block.start ≤ i ∧ IsCallSite (lines text) i target} block.stop ∧ call.site ≤ block.stop ∧
      (block.stop = call.site ↔
        ∃ i ≤ call.site, InSearch (lines text) target i ∧ LoadsUpperAt (lines text) i) := by
  rw [find?_eq] at hfound
  obtain ⟨site, hsite, rfl⟩ := Option.map_eq_some_iff.1 hfound
  have hfirst := firstSite?_eq_some_iff.1 hsite
  obtain ⟨start, stop, hstart, hstop, rfl⟩ := find?_block_iff.1 hblock
  have hle : site ≤ stop := hfirst.2 hstop.1.2
  refine ⟨hstop, hle, fun heq => ⟨start, ?_, hstart.1⟩, fun ⟨i, hi, hsearch⟩ => ?_⟩
  · exact hstop.1.1.trans_eq heq
  · have hstart_le : start ≤ site := (hstart.2 hsearch).trans hi
    exact le_antisymm (hstop.2 ⟨hstart_le, hfirst.1⟩) hle

/-- a thread setup that loads `a0` -/
def threadSetupLines : List Line :=
  [['l', 'u', 'i', ' ', 'a', '0', ',', '0', 'x', '0', '0', '3', '0'],
    prepareThreadLine, syscallWord]

/-- the block of a thread setup that loads `a0` is its own -/
theorem block_stop_eq_site_thread : ∃ call block,
    SetupCall.find? (unlines threadSetupLines) CallNumber.setupThread 5 = some call ∧ call.block? = some block ∧
      block.stop = call.site := by
  have hview : (SetupCall.find? (unlines threadSetupLines) CallNumber.setupThread 5).map
      (fun call => (call.site, call.block?.isSome)) = some (2, true) := by decide +kernel
  obtain ⟨call, hcall, hcallview⟩ := Option.map_eq_some_iff.1 hview
  simp only [Prod.mk.injEq, Option.isSome_iff_exists] at hcallview
  obtain ⟨hsite, block, hblock⟩ := hcallview
  have hload : instructionAt? (lines (unlines threadSetupLines)) 0 = some (.lui 4 0x30) := by decide +kernel
  refine ⟨call, block, hcall, hblock,
    (block_stop_eq_site_iff (unlines threadSetupLines) CallNumber.setupThread 5 call block hcall hblock).2.2.2 ?_⟩
  exact ⟨0, Nat.zero_le _, Or.inl rfl, 0x30, hload⟩

end MemorySetup
