/-
Where the value of the result register comes from.

No instruction loads `v0` as far as it is followed (`get_v0_execute`), and adopting the stack pointer loads `sp` only.
So `v0` keeps its value over every line that is no thread setup (`get_v0_reaching`), and a thread setup gives it the
argument `a1`. Where it is unknown, the instructions that read it do nothing (`execute_of_readsResult`).

`v0_from_latest_setup`: at a found call, `v0` is what `a1` was at the latest thread setup so far, whatever else the
listing does with `v0`; before any thread setup it is unknown, and the lines that read it change nothing.
-/
import MemorySetup.Proofs.CallSites

namespace MemorySetup

open Text

/-! ## Instructions and the result register -/

/-- an instruction starts from the result register: it adds to `v0` or copies it -/
def Instruction.ReadsResult : Instruction → Prop
  | .addiu _ rs _ => rs = Register.v0
  | .daddu _ rs rt => rs = Register.v0 ∧ rt = Register.zero
  | _ => False

theorem mem_of_among? {allowed : List Tracked} {r : Register} {t : Tracked} (h : Tracked.among? allowed r = some t) :
    t ∈ allowed := by
  simpa using (Option.filter_eq_some_iff.1 h).2

/-- a load of one of the allowed registers leaves every other register alone -/
theorem get_set_among? {allowed : List Tracked} {r : Register} {t u : Tracked} (h : Tracked.among? allowed r = some t)
    (hu : u ∉ allowed) (regs : RegisterFile) (value : Option UInt32) : (regs.set t value).get u = regs.get u := by
  have hne : u ≠ t := fun heq => hu (heq ▸ mem_of_among? h)
  rw [RegisterFile.get_set, if_neg hne]

/-- no instruction loads the result register -/
theorem get_v0_execute (regs : RegisterFile) (i : Instruction) : (regs.execute i).get .v0 = regs.get .v0 := by
  cases i with
  | lui rt upper =>
    simp only [RegisterFile.execute, RegisterFile.executeLui]
    split
    · rename_i target htarget
      exact get_set_among? htarget (by decide) _ _
    · rfl
  | addiu rt rs imm =>
    simp only [RegisterFile.execute, RegisterFile.executeAddiu]
    split
    · rename_i target base htarget hbase
      exact get_set_among? htarget (by decide) _ _
    · rfl
  | daddu rd rs rt =>
    simp only [RegisterFile.execute, RegisterFile.executeDaddu]
    split_ifs
    · split
      · rename_i target source htarget hsource
        split_ifs
        · rfl
        · exact get_set_among? htarget (by decide) _ _
      · rfl
    · rfl
  | syscall => rfl

/-- an unknown result is neither added to nor copied -/
theorem execute_of_readsResult {regs : RegisterFile} {i : Instruction} (hv0 : regs.get .v0 = none)
    (hi : i.ReadsResult) : regs.execute i = regs := by
  cases i with
  | lui rt upper => exact hi.elim
  | addiu rt rs imm =>
    obtain rfl : rs = Register.v0 := hi
    have hbase : regs.addiuBase? Register.v0 = none := hv0
    simp only [RegisterFile.execute, RegisterFile.executeAddiu, hbase]
    cases Tracked.among? Tracked.addiuTargets rt <;> rfl
  | daddu rd rs rt =>
    obtain ⟨rfl, rfl⟩ := hi
    have hsource : Tracked.among? Tracked.dadduSources Register.v0 = some .v0 := by decide
    simp only [RegisterFile.execute, RegisterFile.executeDaddu, hsource, if_true]
    split
    · rename_i target source htarget heq
      obtain rfl := Option.some.inj heq
      rw [if_pos ⟨rfl, hv0⟩]
    · rfl
  | syscall => exact hi.elim

/-! ## The result register along a run -/

/-- the registers at line `i` after its own instruction, before the call that it may make -/
def followedAt (ls : List Line) (i : Nat) : RegisterFile :=
  (instructionAt? ls i).elim (reaching ls i) (reaching ls i).execute

section Run

variable {ls : List Line} {i k n : Nat}

/-- at a thread setup the result is the argument `a1` -/
theorem get_v0_registersAt_of_setup (h : IsCallSite ls i CallNumber.setupThread) :
    (registersAt ls i).get .v0 = (followedAt ls i).get .a1 := by
  simp only [registersAt, onLine, if_pos h, RegisterFile.get_set, if_true]
  rfl

theorem registersAt_of_not_setup (h : ¬ IsCallSite ls i CallNumber.setupThread) :
    registersAt ls i = followedAt ls i := by
  simp only [registersAt, onLine, if_neg h]
  rfl

/-- every other line keeps the result -/
theorem get_v0_registersAt_of_not_setup (h : ¬ IsCallSite ls i CallNumber.setupThread) :
    (registersAt ls i).get .v0 = (reaching ls i).get .v0 := by
  rw [registersAt_of_not_setup h, followedAt]
  cases instructionAt? ls i with
  | none => rfl
  | some instruction => exact get_v0_execute _ _

/-- what happens after a line is the business of `sp` -/
theorem get_v0_reaching_succ : (reaching ls (i + 1)).get .v0 = (registersAt ls i).get .v0 := by
  change (afterLine ls i (registersAt ls i)).get .v0 = _
  unfold afterLine
  split_ifs
  · rw [RegisterFile.get_set, if_neg (by decide)]
  · rfl

/-- the result stays the same between two thread setups -/
theorem get_v0_reaching (hkn : k ≤ n) (h : ∀ i, k ≤ i → i < n → ¬ IsCallSite ls i CallNumber.setupThread) :
    (reaching ls n).get .v0 = (reaching ls k).get .v0 := by
  induction n, hkn using Nat.le_induction with
  | base => rfl
  | succ n hkn ih =>
    rw [get_v0_reaching_succ, get_v0_registersAt_of_not_setup (h n hkn (Nat.lt_succ_self n))]
    exact ih fun i hki hin => h i hki (by omega)

/-- the result at line `n`, where line `k` was the latest thread setup -/
theorem get_v0_registersAt_of_isGreatest (h : IsGreatest {i | i ≤ n ∧ IsCallSite ls i CallNumber.setupThread} k) :
    (registersAt ls n).get .v0 = (followedAt ls k).get .a1 := by
  obtain ⟨⟨hkn, hsetup⟩, hlatest⟩ := h
  have hafter : ∀ i, k < i → i ≤ n → ¬ IsCallSite ls i CallNumber.setupThread := by
    intro i hki hin hcall
    have hle : i ≤ k := hlatest ⟨hin, hcall⟩
    omega
  rcases hkn.eq_or_lt with rfl | hlt
  · exact get_v0_registersAt_of_setup hsetup
  · calc (registersAt ls n).get .v0
        = (reaching ls n).get .v0 := get_v0_registersAt_of_not_setup (hafter n hlt le_rfl)
      _ = (reaching ls (k + 1)).get .v0 := get_v0_reaching hlt fun i hki hin => hafter i hki hin.le
      _ = (registersAt ls k).get .v0 := get_v0_reaching_succ
      _ = (followedAt ls k).get .a1 := get_v0_registersAt_of_setup hsetup

/-- before the first thread setup there is no result -/
theorem get_v0_reaching_of_no_setup (h : ∀ i < n, ¬ IsCallSite ls i CallNumber.setupThread) :
    (reaching ls n).get .v0 = none := by
  rw [get_v0_reaching (Nat.zero_le n) fun i _ hin => h i hin]
  exact RegisterFile.get_unknown .v0

/-- a line that reads the unknown result changes no register -/
theorem reaching_succ_of_readsResult {instruction : Instruction}
    (hsetup : ∀ i ≤ k, ¬ IsCallSite ls i CallNumber.setupThread) (hk : instructionAt? ls k = some instruction)
    (hreads : instruction.ReadsResult) : registersAt ls k = reaching ls k ∧ reaching ls (k + 1) = reaching ls k := by
  have hv0 : (reaching ls k).get .v0 = none := get_v0_reaching_of_no_setup fun i hi => hsetup i hi.le
  have hregs : registersAt ls k = reaching ls k := by
    rw [registersAt_of_not_setup (hsetup k le_rfl), followedAt, hk]
    exact execute_of_readsResult hv0 hreads
  refine ⟨hregs, ?_⟩
  change afterLine ls k (registersAt ls k) = _
  rw [hregs, afterLine, if_neg fun hadopt => hsetup k le_rfl hadopt.1]

end Run

/-- **The result register.** At a found call, `v0` is what `a1` was at the latest thread setup up to that call, after
the instruction on the line of that setup. Without such a setup it is unknown, and no line up to the call that adds to
`v0` or copies it changes any register. -/
theorem v0_from_latest_setup (text : List Char) (target : CallNumber) (lookback : Nat) (call : SetupCall)
    (hfound : SetupCall.find? text target lookback = some call) :
    (∀ k, IsGreatest {i | i ≤ call.site ∧ IsCallSite (lines text) i CallNumber.setupThread} k →
      call.registers.get .v0 = (followedAt (lines text) k).get .a1) ∧
    ((∀ i ≤ call.site, ¬ IsCallSite (lines text) i CallNumber.setupThread) →
      call.registers.get .v0 = none ∧
      ∀ k ≤ call.site, ∀ instruction, instructionAt? (lines text) k = some instruction → instruction.ReadsResult →
        registersAt (lines text) k = reaching (lines text) k ∧
          reaching (lines text) (k + 1) = reaching (lines text) k) := by
  rw [find?_eq] at hfound
  obtain ⟨site, -, rfl⟩ := Option.map_eq_some_iff.1 hfound
  constructor
  · intro k hk
    exact get_v0_registersAt_of_isGreatest hk
  · intro hsetup
    have hsite : ∀ i ≤ site, ¬ IsCallSite (lines text) i CallNumber.setupThread := hsetup
    constructor
    · change (registersAt (lines text) site).get .v0 = none
      rw [get_v0_registersAt_of_not_setup (hsite site le_rfl)]
      exact get_v0_reaching_of_no_setup fun i hi => hsite i hi.le
    · intro k hk instruction hinstruction hreads
      exact reaching_succ_of_readsResult (fun i hi => hsite i (hi.trans hk)) hinstruction hreads

/-- a thread setup whose line loads `a1` itself; then `v0` is loaded and copied, and `a1` changes before the heap
setup -/
def returnedLines : List Line :=
  [['l', 'u', 'i', ' ', 'a', '1', ',', '0', 'x', '2', '0', '0'],
    prepareThreadLine,
    ['l', 'u', 'i', ' ', 'a', '1', ',', '0', 'x', '3', '0', '0', ' ', '#'] ++ syscallWord,
    ['a', 'd', 'd', 'i', 'u', ' ', 'v', '0', ',', 'z', 'e', 'r', 'o', ',', '0', 'x', '7'],
    ['d', 'a', 'd', 'd', 'u', ' ', 'g', 'p', ',', 'v', '0', ',', 'z', 'e', 'r', 'o'],
    ['l', 'u', 'i', ' ', 'a', '1', ',', '0', 'x', '1', '0', '0'],
    prepareHeapLine, syscallWord]

/-- in that code the heap setup sees in `v0` the `a1` of the line of the thread setup; without the thread setup `v0` is
unknown and its copy does nothing -/
theorem v0_from_latest_setup_returned :
    (∃ call, SetupCall.find? (unlines returnedLines) CallNumber.setupHeap 5 = some call ∧
      IsGreatest {i | i ≤ call.site ∧ IsCallSite (lines (unlines returnedLines)) i CallNumber.setupThread} 2 ∧
      call.registers.get .v0 = some 0x03000000 ∧ call.registers.get .a1 = some 0x01000000) ∧
    ∃ call, SetupCall.find? (unlines (returnedLines.drop 3)) CallNumber.setupHeap 5 = some call ∧
      call.registers.get .v0 = none ∧
      reaching (lines (unlines (returnedLines.drop 3))) 2 = reaching (lines (unlines (returnedLines.drop 3))) 1 := by
  constructor
  · have hview : (SetupCall.find? (unlines returnedLines) CallNumber.setupHeap 5).map
        (fun call => (call.site, call.registers.get .a1)) = some (7, some 0x01000000) := by decide +kernel
    obtain ⟨call, hcall, hcallview⟩ := Option.map_eq_some_iff.1 hview
    obtain ⟨hsite, ha1⟩ := Prod.mk.inj hcallview
    have hsetup : IsCallSite (lines (unlines returnedLines)) 2 CallNumber.setupThread := by decide +kernel
    have hlast : ∀ i ≤ 7, IsCallSite (lines (unlines returnedLines)) i CallNumber.setupThread → i ≤ 2 := by
      decide +kernel
    have hlatest : IsGreatest {i | i ≤ call.site ∧
        IsCallSite (lines (unlines returnedLines)) i CallNumber.setupThread} 2 :=
      ⟨⟨hsite ▸ by decide, hsetup⟩, fun i hi => hlast i (hsite ▸ hi.1) hi.2⟩
    have hvalue : (followedAt (lines (unlines returnedLines)) 2).get .a1 = some 0x03000000 := by decide +kernel
    have hv0 := (v0_from_latest_setup (unlines returnedLines) CallNumber.setupHeap 5 call hcall).1 2 hlatest
    exact ⟨call, hcall, hlatest, hv0.trans hvalue, ha1⟩
  · have hview : (SetupCall.find? (unlines (returnedLines.drop 3)) CallNumber.setupHeap 5).map SetupCall.site =
        some 4 := by decide +kernel
    obtain ⟨call, hcall, hsite⟩ := Option.map_eq_some_iff.1 hview
    have hnone : ∀ i ≤ 4, ¬ IsCallSite (lines (unlines (returnedLines.drop 3))) i CallNumber.setupThread := by
      decide +kernel
    have hcopy : instructionAt? (lines (unlines (returnedLines.drop 3))) 1 =
        some (.daddu 28 Register.v0 Register.zero) := by decide +kernel
    obtain ⟨hv0, hinert⟩ := (v0_from_latest_setup _ CallNumber.setupHeap 5 call hcall).2 (hsite ▸ hnone)
    exact ⟨call, hcall, hv0, (hinert 1 (hsite ▸ by decide) _ hcopy ⟨rfl, rfl⟩).2⟩

end MemorySetup
