/-
What adopting the stack pointer along with the thread setup changes.

The line that moves the returned stack pointer to `sp` is followed twice: once along with the call before it, where an
unknown pointer is copied, and once as an instruction of its own, where an unknown result is not copied. The plain pass
(`SetupCall.findPlain?`) does the second only.

No instruction reads `sp`, so the passes differ in `sp` at most (`sameButSp_reaching`). After a thread setup with a
known `a1` the real pass is ahead by one line, until the move gives both the same pointer; with an unknown `a1` it
forgets the stack pointer, which the plain pass keeps as it was at that setup. `SpBefore` and `SpAt` are these cases on
reaching a line and at a line.

`adoption_only_forgets`: the passes find the same, up to `sp`. They agree on `sp` too if `a1` is known wherever the
stack pointer is adopted; and where they differ, the real pass does not know it, and the plain one has a stale value.
-/
import MemorySetup.Proofs.Loads

namespace MemorySetup

open Text

/-! ## The plain pass -/

/-- run through lines as `snapshotsFrom` does, without adopting the stack pointer -/
def plainSnapshotsFrom (prepared : Option CallNumber) (regs : RegisterFile) : List Reading → List Snapshot
  | [] => []
  | r :: rest =>
    let call? := r.call? prepared
    let here := (regs.follow r).returnStack call?
    ⟨call?, here⟩ :: plainSnapshotsFrom r.callNumber? here rest

/-- the first site of a call, by the plain pass -/
def SetupCall.findPlain? (text : List Char) (target : CallNumber) (lookback : Nat) : Option SetupCall :=
  let readings := trimmedReadings (lines text)
  let snapshots := plainSnapshotsFrom none RegisterFile.unknown readings
  (snapshots.zipIdx.find? fun s => s.1.call? == some target).map fun (snapshot, site) =>
    { site := site
      registers := snapshot.registers
      a0Trace := AddressTrace.capture readings .a0 site lookback
      a1Trace := AddressTrace.capture readings .a1 site lookback
      block? := CodeBlock.find? (lines text) target }

/-- the registers on reaching line `i`, by the plain pass -/
def plainReaching (ls : List Line) : Nat → RegisterFile
  | 0 => RegisterFile.unknown
  | i + 1 => onLine ls i (plainReaching ls i)

/-- the registers at line `i`, by the plain pass -/
def plainAt (ls : List Line) (i : Nat) : RegisterFile :=
  onLine ls i (plainReaching ls i)

theorem plainSnapshotsFrom_eq (ls rest : List Line) (i : Nat) (h : ls.drop i = rest) :
    plainSnapshotsFrom (preparedAt? ls i) (plainReaching ls i) (rest.map Reading.ofLine) =
      (List.range' i rest.length).map fun k => ⟨callAt? ls k, plainAt ls k⟩ := by
  induction rest generalizing i with
  | nil => rfl
  | cons line rest ih =>
    have hline : ls[i]? = some line := by rw [← List.head?_drop, h]; rfl
    have hrest : ls.drop (i + 1) = rest := by rw [← List.tail_drop, h]; rfl
    have hnumber : (Reading.ofLine line).callNumber? = preparedAt? ls (i + 1) := by
      simp [preparedAt?, hline, Reading.ofLine]
    rw [List.map_cons, plainSnapshotsFrom, List.length_cons, List.range'_succ, List.map_cons]
    simp only [callAt?_eq hline, onLine_eq hline]
    rw [hnumber]
    exact congrArg _ (ih (i + 1) hrest)

/-- the plain pass finds a call at its first site as well -/
theorem findPlain?_eq (text : List Char) (target : CallNumber) (lookback : Nat) :
    SetupCall.findPlain? text target lookback = (firstSite? (lines text) target).map fun i =>
      { callFoundAt (lines text) target lookback i with registers := plainAt (lines text) i } := by
  have hsnapshots : plainSnapshotsFrom none RegisterFile.unknown (trimmedReadings (lines text)) =
      (List.range (lines text).length).map fun k => ⟨callAt? (lines text) k, plainAt (lines text) k⟩ := by
    rw [trimmedReadings_eq, List.range_eq_range']
    exact plainSnapshotsFrom_eq (lines text) (lines text) 0 rfl
  rw [SetupCall.findPlain?, hsnapshots, find?_zipIdx_eq _ target _ fun _ => rfl, Option.map_map]
  rfl

/-! ## All registers but the stack pointer -/

/-- two files differ in the stack pointer at most -/
def SameButSp (regs plain : RegisterFile) : Prop :=
  ∀ t, t ≠ .sp → regs.get t = plain.get t

/-- the stack pointer is adopted along with line `i`: it is a thread setup, and the next line moves the pointer -/
def AdoptsAt (ls : List Line) (i : Nat) : Prop :=
  IsCallSite ls i CallNumber.setupThread ∧ instructionAt? ls (i + 1) = some RegisterFile.stackMove

instance (ls : List Line) (i : Nat) : Decidable (AdoptsAt ls i) :=
  inferInstanceAs (Decidable (_ ∧ _))

section SameButSp

variable {regs plain : RegisterFile}

theorem SameButSp.set (h : SameButSp regs plain) (t : Tracked) (value : Option UInt32) :
    SameButSp (regs.set t value) (plain.set t value) := by
  intro u hu
  rw [RegisterFile.get_set, RegisterFile.get_set, h u hu]

/-- an instruction does not look at the stack pointer, so it does the same to both files -/
theorem SameButSp.execute (h : SameButSp regs plain) (i : Instruction) :
    SameButSp (regs.execute i) (plain.execute i) := by
  rw [RegisterFile.execute_eq, RegisterFile.execute_eq, RegisterFile.loaded?_congr h]
  cases plain.loaded? i with
  | none => exact h
  | some load => exact h.set load.1 load.2

theorem SameButSp.instruction (h : SameButSp regs plain) (i? : Option Instruction) :
    SameButSp (i?.elim regs regs.execute) (i?.elim plain plain.execute) := by
  cases i? with
  | none => exact h
  | some i => exact h.execute i

theorem SameButSp.onLine (h : SameButSp regs plain) (ls : List Line) (n : Nat) :
    SameButSp (onLine ls n regs) (onLine ls n plain) := by
  have hi := h.instruction (instructionAt? ls n)
  unfold MemorySetup.onLine
  split_ifs
  · have ha1 := hi .a1 (by decide)
    simp only [ha1]
    exact hi.set .v0 _
  · exact hi

theorem sameButSp_reaching (ls : List Line) (n : Nat) : SameButSp (reaching ls n) (plainReaching ls n) := by
  induction n with
  | zero => exact fun _ _ => rfl
  | succ n ih =>
    intro t ht
    rw [get_reaching_succ ht]
    exact ih.onLine ls n t ht

theorem sameButSp_registersAt (ls : List Line) (n : Nat) : SameButSp (registersAt ls n) (plainAt ls n) :=
  (sameButSp_reaching ls n).onLine ls n

end SameButSp

/-! ## The stack pointer -/

/-- before line `n`, a stack pointer was adopted that is not known; the plain pass has kept `sp` since -/
def Forgotten (ls : List Line) (n : Nat) (regs plain : RegisterFile) : Prop :=
  regs.get .sp = none ∧
    ∃ k < n, AdoptsAt ls k ∧ (registersAt ls k).get .a1 = none ∧ (plainAt ls k).get .sp = plain.get .sp

/-- the stack pointers at line `n`: they are the same, or that of the real pass is forgotten -/
def SpAt (ls : List Line) (n : Nat) : Prop :=
  (registersAt ls n).get .sp = (plainAt ls n).get .sp ∨ Forgotten ls n (registersAt ls n) (plainAt ls n)

/-- the stack pointers on reaching line `n`: the real pass may also be ahead by the move on line `n` -/
def SpBefore (ls : List Line) (n : Nat) : Prop :=
  (reaching ls n).get .sp = (plainReaching ls n).get .sp ∨ Forgotten ls n (reaching ls n) (plainReaching ls n) ∨
    instructionAt? ls n = some RegisterFile.stackMove ∧ (reaching ls n).get .v0 ≠ none

section StackPointer

variable {ls : List Line} {n : Nat}

/-- the move of a known result gives it to the stack pointer -/
theorem get_sp_stackMove {regs : RegisterFile} (h : regs.get .v0 ≠ none) :
    (regs.execute RegisterFile.stackMove).get .sp = regs.get .v0 := by
  have hload : regs.loaded? RegisterFile.stackMove = some (.sp, regs.get .v0) := by
    have htarget : Tracked.among? Tracked.dadduTargets Register.sp = some .sp := by decide
    have hsource : Tracked.among? Tracked.dadduSources Register.v0 = some .v0 := by decide
    simp [RegisterFile.stackMove, RegisterFile.loaded?, htarget, hsource, h]
  rw [RegisterFile.execute_eq, hload]
  exact (RegisterFile.get_set regs .sp .sp _).trans (if_pos rfl)

/-- an instruction gives both stack pointers one value, or leaves both alone -/
theorem get_sp_execute {regs plain : RegisterFile} (h : SameButSp regs plain) (i : Instruction) :
    (regs.execute i).get .sp = (plain.execute i).get .sp ∨
      (regs.execute i).get .sp = regs.get .sp ∧ (plain.execute i).get .sp = plain.get .sp := by
  rw [RegisterFile.execute_eq, RegisterFile.execute_eq, RegisterFile.loaded?_congr h]
  cases plain.loaded? i with
  | none => exact Or.inr ⟨rfl, rfl⟩
  | some load =>
    obtain ⟨t, value⟩ := load
    simp only [Option.elim_some, RegisterFile.get_set]
    by_cases ht : .sp = t
    · simp [ht]
    · simp [ht]

/-- line `n` closes the gap if the real pass is ahead -/
theorem SpBefore.line (h : SpBefore ls n) : SpAt ls n := by
  have hsame := sameButSp_reaching ls n
  have hline : ∀ regs : RegisterFile,
      (onLine ls n regs).get .sp = ((instructionAt? ls n).elim regs regs.execute).get .sp := get_onLine (by decide) n
  unfold SpAt Forgotten registersAt plainAt
  rw [hline, hline]
  rcases h with heq | hforgotten | ⟨hmove, hv0⟩
  · left
    cases instructionAt? ls n with
    | none => exact heq
    | some i =>
      rcases get_sp_execute hsame i with hi | ⟨hi, hi'⟩
      · exact hi
      · exact (hi.trans heq).trans hi'.symm
  · cases instructionAt? ls n with
    | none => exact Or.inr hforgotten
    | some i =>
      rcases get_sp_execute hsame i with hi | ⟨hi, hi'⟩
      · exact Or.inl hi
      · right
        simp only [Option.elim_some, hi, hi']
        exact hforgotten
  · left
    have hresult : (reaching ls n).get .v0 = (plainReaching ls n).get .v0 := hsame .v0 (by decide)
    rw [hmove]
    exact (get_sp_stackMove hv0).trans (hresult.trans (get_sp_stackMove (hresult ▸ hv0)).symm)

/-- where a stack pointer is adopted, it is the `a1` of the thread setup -/
theorem get_v0_of_adoptsAt (h : AdoptsAt ls n) : (registersAt ls n).get .v0 = (registersAt ls n).get .a1 := by
  simp only [registersAt, onLine, if_pos h.1, RegisterFile.get_set]
  rfl

/-- after line `n` a stack pointer may be adopted: the real pass is ahead if it is known, and else it is forgotten -/
theorem SpAt.next (h : SpAt ls n) : SpBefore ls (n + 1) := by
  by_cases hadopt : AdoptsAt ls n
  · have hafter : reaching ls (n + 1) = (registersAt ls n).set .sp ((registersAt ls n).get .v0) := if_pos hadopt
    by_cases ha1 : (registersAt ls n).get .a1 = none
    · right; left
      refine ⟨?_, n, Nat.lt_succ_self n, hadopt, ha1, rfl⟩
      rw [hafter, RegisterFile.get_set, if_pos rfl, get_v0_of_adoptsAt hadopt, ha1]
    · right; right
      refine ⟨hadopt.2, ?_⟩
      rw [hafter, RegisterFile.get_set, if_neg (by decide), get_v0_of_adoptsAt hadopt]
      exact ha1
  · have hafter : reaching ls (n + 1) = registersAt ls n := if_neg hadopt
    rcases h with heq | ⟨hnone, k, hk, hlost⟩
    · left
      rw [hafter]
      exact heq
    · right; left
      rw [hafter]
      exact ⟨hnone, k, Nat.lt_succ_of_lt hk, hlost⟩

theorem spBefore_reaching (ls : List Line) (n : Nat) : SpBefore ls n := by
  induction n with
  | zero => exact Or.inl rfl
  | succ n ih => exact ih.line.next

theorem spAt_registersAt (ls : List Line) (n : Nat) : SpAt ls n :=
  (spBefore_reaching ls n).line

end StackPointer

/-- **Adopting the stack pointer only forgets.** The plain pass finds a call exactly if the real one does, at the same
line, with the same traces, the same block and the same registers other than `sp`. If `a1` is known at every thread
setup before the call with which a stack pointer is adopted, `sp` is the same too. Where `sp` differs, the real pass
does not know it; the plain pass still has the value of a thread setup whose `a1`, the new stack pointer, is unknown. -/
theorem adoption_only_forgets (text : List Char) (target : CallNumber) (lookback : Nat) :
    (SetupCall.find? text target lookback = none ↔ SetupCall.findPlain? text target lookback = none) ∧
    ∀ call plain, SetupCall.find? text target lookback = some call →
      SetupCall.findPlain? text target lookback = some plain →
      plain.site = call.site ∧ plain.a0Trace = call.a0Trace ∧ plain.a1Trace = call.a1Trace ∧
      plain.block? = call.block? ∧ (∀ t, t ≠ .sp → plain.registers.get t = call.registers.get t) ∧
      ((∀ k < call.site, AdoptsAt (lines text) k → (registersAt (lines text) k).get .a1 ≠ none) →
        plain.registers.get .sp = call.registers.get .sp) ∧
      (plain.registers.get .sp ≠ call.registers.get .sp → call.registers.get .sp = none ∧
        ∃ k < call.site, AdoptsAt (lines text) k ∧ (registersAt (lines text) k).get .a1 = none ∧
          (plainAt (lines text) k).get .sp = plain.registers.get .sp) := by
  rw [find?_eq, findPlain?_eq]
  constructor
  · rw [Option.map_eq_none_iff, Option.map_eq_none_iff]
  · intro call plain hcall hplain
    obtain ⟨site, hsite, rfl⟩ := Option.map_eq_some_iff.1 hcall
    obtain ⟨site', hsite', rfl⟩ := Option.map_eq_some_iff.1 hplain
    obtain rfl : site = site' := Option.some.inj (hsite.symm.trans hsite')
    refine ⟨rfl, rfl, rfl, rfl, fun t ht => (sameButSp_registersAt (lines text) site t ht).symm, fun hknown => ?_,
      fun hdiffer => ?_⟩
    · rcases spAt_registersAt (lines text) site with heq | ⟨-, k, hk, hadopt, ha1, -⟩
      · exact heq.symm
      · exact absurd ha1 (hknown k hk hadopt)
    · rcases spAt_registersAt (lines text) site with heq | hforgotten
      · exact absurd heq.symm hdiffer
      · exact hforgotten

/-- setup code that loads `sp` and then moves a stack pointer that is not known -/
def unknownStackLines : List Line :=
  [['a', 'd', 'd', 'i', 'u', ' ', 's', 'p', ',', 'z', 'e', 'r', 'o', ',', '0', 'x', '1', '0', '0'],
    prepareThreadLine, syscallWord,
    moveStackLine,
    prepareHeapLine, syscallWord]

/-- at the heap setup of that code the plain pass has a stale stack pointer, and the real one has none; in `bootLines`,
where the stack pointer is known, both have it -/
theorem adoption_only_forgets_unknownStack :
    (∃ call plain, SetupCall.find? (unlines unknownStackLines) CallNumber.setupHeap 5 = some call ∧
      SetupCall.findPlain? (unlines unknownStackLines) CallNumber.setupHeap 5 = some plain ∧
      plain.registers.get .sp = some 0x100 ∧ call.registers.get .sp = none ∧
      AdoptsAt (lines (unlines unknownStackLines)) 2) ∧
    ∃ call plain, SetupCall.find? (unlines bootLines) CallNumber.setupHeap 5 = some call ∧
      SetupCall.findPlain? (unlines bootLines) CallNumber.setupHeap 5 = some plain ∧
      call.registers.get .sp = some 0x02000000 ∧ plain.registers.get .sp = some 0x02000000 := by
  constructor
  · have hview : (SetupCall.find? (unlines unknownStackLines) CallNumber.setupHeap 5).map
        (fun call => call.registers.get .sp) = some none := by decide +kernel
    have hplainview : (SetupCall.findPlain? (unlines unknownStackLines) CallNumber.setupHeap 5).map
        (fun plain => plain.registers.get .sp) = some (some 0x100) := by decide +kernel
    obtain ⟨call, hcall, hsp⟩ := Option.map_eq_some_iff.1 hview
    obtain ⟨plain, hplain, hplainsp⟩ := Option.map_eq_some_iff.1 hplainview
    have hdiffer : plain.registers.get .sp ≠ call.registers.get .sp := by simp [hsp, hplainsp]
    obtain ⟨-, -, -, -, -, -, hforgets⟩ :=
      (adoption_only_forgets (unlines unknownStackLines) CallNumber.setupHeap 5).2 call plain hcall hplain
    exact ⟨call, plain, hcall, hplain, hplainsp, (hforgets hdiffer).1, by decide +kernel⟩
  · have hview : (SetupCall.find? (unlines bootLines) CallNumber.setupHeap 5).map
        (fun call => (call.site, call.registers.get .sp)) = some (5, some 0x02000000) := by decide +kernel
    have hplainview : (SetupCall.findPlain? (unlines bootLines) CallNumber.setupHeap 5).isSome := by decide +kernel
    obtain ⟨call, hcall, hcallview⟩ := Option.map_eq_some_iff.1 hview
    obtain ⟨hsite, hsp⟩ := Prod.mk.inj hcallview
    obtain ⟨plain, hplain⟩ := Option.isSome_iff_exists.1 hplainview
    have hknown : ∀ k < 5, AdoptsAt (lines (unlines bootLines)) k →
        (registersAt (lines (unlines bootLines)) k).get .a1 ≠ none := by decide +kernel
    obtain ⟨-, -, -, -, -, hagree, -⟩ :=
      (adoption_only_forgets (unlines bootLines) CallNumber.setupHeap 5).2 call plain hcall hplain
    exact ⟨call, plain, hcall, hplain, hsp, (hagree (hsite ▸ hknown)).trans hsp⟩

end MemorySetup
