/-
Where the calls of a listing are, and the registers at each line.

The definitions here speak of a listing by line number and know of no call that is looked for:
- `IsCallSite ls i number`: line `i` mentions a kernel call and the line before it prepares `number`;
- `registersAt ls i`: the registers at line `i` after its instruction and its call, of a run from the first line on.
The run takes one line after the other (`onLine`, `afterLine`) from unknown registers.

`snapshots_eq`: what the run over the readings records is the call and the registers of every line.
`find?_eq`: a call is found at its first site (`firstSite?`), with the registers of that line. Hence
- `find?_first_match`: a call is found exactly if it has a site, and what is found there depends on nothing after it.
The call that is looked for only chooses the line.
-/
import Mathlib.Order.Bounds.Basic
import MemorySetup.Proofs.Trimming

namespace MemorySetup

open Text

/-! ## Call sites -/

/-- the instruction on line `i` -/
def instructionAt? (ls : List Line) (i : Nat) : Option Instruction :=
  ls[i]?.bind Instruction.ofLine?

/-- line `i` mentions a kernel call, and the line before it prepares the call with the given number -/
def IsCallSite (ls : List Line) (i : Nat) (number : CallNumber) : Prop :=
  1 ≤ i ∧ ls[i]?.any mentionsSyscall ∧ ls[i - 1]?.bind callNumber? = some number

instance (ls : List Line) (i : Nat) (number : CallNumber) : Decidable (IsCallSite ls i number) :=
  inferInstanceAs (Decidable (_ ∧ _ ∧ _))

/-- the call number prepared right before line `i` -/
def preparedAt? (ls : List Line) : Nat → Option CallNumber
  | 0 => none
  | i + 1 => ls[i]?.bind callNumber?

/-- the call made on line `i` -/
def callAt? (ls : List Line) (i : Nat) : Option CallNumber :=
  if ls[i]?.any mentionsSyscall then preparedAt? ls i else none

theorem isCallSite_iff {ls : List Line} {i : Nat} {number : CallNumber} :
    IsCallSite ls i number ↔ callAt? ls i = some number := by
  cases i with
  | zero => simp [IsCallSite, callAt?, preparedAt?]
  | succ i => simp [IsCallSite, callAt?, preparedAt?]

theorem IsCallSite.lt_length {ls : List Line} {i : Nat} {number : CallNumber} (h : IsCallSite ls i number) :
    i < ls.length := by
  have hmention := h.2.1
  by_contra hi
  rw [List.getElem?_eq_none (by omega)] at hmention
  simp at hmention

/-! ## The run over a listing -/

/-- what line `i` does to the registers: its instruction, and the return of the stack pointer if it is a thread setup -/
def onLine (ls : List Line) (i : Nat) (regs : RegisterFile) : RegisterFile :=
  let followed := (instructionAt? ls i).elim regs regs.execute
  if IsCallSite ls i CallNumber.setupThread then followed.set .v0 (followed.get .a1) else followed

/-- what happens after line `i`: the stack pointer is adopted if it is a thread setup and the next line moves it -/
def afterLine (ls : List Line) (i : Nat) (regs : RegisterFile) : RegisterFile :=
  if IsCallSite ls i CallNumber.setupThread ∧
      instructionAt? ls (i + 1) = some (.daddu Register.sp Register.v0 Register.zero) then
    regs.set .sp (regs.get .v0)
  else regs

/-- the registers on reaching line `i`, with nothing known at first -/
def reaching (ls : List Line) : Nat → RegisterFile
  | 0 => RegisterFile.unknown
  | i + 1 => afterLine ls i (onLine ls i (reaching ls i))

/-- the registers at line `i` -/
def registersAt (ls : List Line) (i : Nat) : RegisterFile :=
  onLine ls i (reaching ls i)

/-- the call made on line `i`, and the registers there -/
def snapshotAt (ls : List Line) (i : Nat) : Snapshot :=
  ⟨callAt? ls i, registersAt ls i⟩

section Bridge

variable {ls : List Line} {i : Nat} {line : Line}

theorem callAt?_eq (h : ls[i]? = some line) : (Reading.ofLine line).call? (preparedAt? ls i) = callAt? ls i := by
  rw [callAt?, h]
  rfl

theorem onLine_eq (h : ls[i]? = some line) (regs : RegisterFile) :
    (regs.follow (Reading.ofLine line)).returnStack (callAt? ls i) = onLine ls i regs := by
  have hfollow : regs.follow (Reading.ofLine line) = (instructionAt? ls i).elim regs regs.execute := by
    simp only [RegisterFile.follow, Reading.ofLine, instructionAt?, h, Option.bind_some]
    cases Instruction.ofLine? line <;> rfl
  simp only [RegisterFile.returnStack, onLine, hfollow, isCallSite_iff]

theorem afterLine_eq (regs : RegisterFile) :
    regs.adoptStack (callAt? ls i) ((ls.drop (i + 1)).map Reading.ofLine).head? = afterLine ls i regs := by
  have hnext : ((ls.drop (i + 1)).map Reading.ofLine).head?.bind Reading.instruction? = instructionAt? ls (i + 1) := by
    rw [List.head?_map, List.head?_drop, instructionAt?]
    cases ls[i + 1]? <;> rfl
  simp only [RegisterFile.adoptStack, afterLine, hnext, isCallSite_iff, RegisterFile.stackMove]

end Bridge

/-- the run over the lines from `i` on records what the run by line numbers records -/
theorem snapshotsFrom_eq (ls rest : List Line) (i : Nat) (h : ls.drop i = rest) :
    snapshotsFrom (preparedAt? ls i) (reaching ls i) (rest.map Reading.ofLine) =
      (List.range' i rest.length).map (snapshotAt ls) := by
  induction rest generalizing i with
  | nil => rfl
  | cons line rest ih =>
    have hline : ls[i]? = some line := by rw [← List.head?_drop, h]; rfl
    have hrest : ls.drop (i + 1) = rest := by rw [← List.tail_drop, h]; rfl
    have hnumber : (Reading.ofLine line).callNumber? = preparedAt? ls (i + 1) := by
      simp [preparedAt?, hline, Reading.ofLine]
    rw [List.map_cons, snapshotsFrom, List.length_cons, List.range'_succ, List.map_cons]
    simp only [callAt?_eq hline, onLine_eq hline]
    rw [← hrest, afterLine_eq, hnumber, hrest]
    exact congrArg _ (ih (i + 1) hrest)

/-- **The run by line numbers is the run over the readings.** -/
theorem snapshots_eq (ls : List Line) :
    snapshots (trimmedReadings ls) = (List.range ls.length).map (snapshotAt ls) := by
  rw [trimmedReadings_eq, snapshots, List.range_eq_range']
  exact snapshotsFrom_eq ls ls 0 rfl

/-! ## The first site of a call -/

/-- the first site of a call -/
def firstSite? (ls : List Line) (target : CallNumber) : Option Nat :=
  (List.range ls.length).find? fun i => IsCallSite ls i target

theorem firstSite?_eq_some_iff {ls : List Line} {target : CallNumber} {i : Nat} :
    firstSite? ls target = some i ↔ IsLeast {k | IsCallSite ls k target} i := by
  rw [firstSite?, List.find?_eq_some_iff_getElem]
  constructor
  · rintro ⟨hi, k, hk, hki, hbefore⟩
    simp only [List.getElem_range] at hki hbefore
    subst hki
    refine ⟨by simpa using hi, fun m hm => ?_⟩
    by_contra hlt
    have := hbefore m (by omega)
    simp [show IsCallSite ls m target from hm] at this
  · rintro ⟨hi, hleast⟩
    have hsite : IsCallSite ls i target := hi
    refine ⟨by simpa using hsite, i, by simpa using hsite.lt_length, List.getElem_range _, fun m hm => ?_⟩
    have hm' : ¬ IsCallSite ls m target := fun h => absurd (hleast h) (by omega)
    simpa using hm'

theorem firstSite?_eq_none_iff {ls : List Line} {target : CallNumber} :
    firstSite? ls target = none ↔ ∀ i, ¬ IsCallSite ls i target := by
  rw [firstSite?, List.find?_eq_none]
  constructor
  · intro h i hi
    exact h i (List.mem_range.2 hi.lt_length) (by simpa using hi)
  · intro h i _
    simpa using h i

/-- among records of the calls line by line, the first of a call is that of its first site -/
theorem find?_zipIdx_eq (ls : List Line) (target : CallNumber) (record : Nat → Snapshot)
    (hrecord : ∀ i, (record i).call? = callAt? ls i) :
    ((List.range ls.length).map record).zipIdx.find? (fun s => s.1.call? == some target) =
      (firstSite? ls target).map fun i => (record i, i) := by
  have hzip : ((List.range ls.length).map record).zipIdx = (List.range ls.length).map fun i => (record i, i) := by
    apply List.ext_getElem
    · simp
    · intro i h1 h2
      simp
  have hsite : (fun i => (record i).call? == some target) = fun i => decide (IsCallSite ls i target) := by
    funext i
    rw [Bool.eq_iff_iff, beq_iff_eq, decide_eq_true_iff, isCallSite_iff, hrecord]
  rw [hzip, List.find?_map, firstSite?, ← hsite]
  rfl

theorem firstSnapshot?_eq (ls : List Line) (target : CallNumber) :
    SetupCall.firstSnapshot? (trimmedReadings ls) target =
      (firstSite? ls target).map fun i => (snapshotAt ls i, i) := by
  rw [SetupCall.firstSnapshot?, snapshots_eq]
  exact find?_zipIdx_eq ls target (snapshotAt ls) fun _ => rfl

/-- what is known of a call at line `i` -/
def callFoundAt (ls : List Line) (target : CallNumber) (lookback i : Nat) : SetupCall :=
  { site := i
    registers := registersAt ls i
    a0Trace := AddressTrace.capture (trimmedReadings ls) .a0 i lookback
    a1Trace := AddressTrace.capture (trimmedReadings ls) .a1 i lookback
    block? := CodeBlock.find? ls target }

/-- **A call is found at its first site**, with the registers of that line -/
theorem find?_eq (text : List Char) (target : CallNumber) (lookback : Nat) :
    SetupCall.find? text target lookback =
      (firstSite? (lines text) target).map (callFoundAt (lines text) target lookback) := by
  rw [SetupCall.find?, firstSnapshot?_eq, Option.map_map]
  rfl

/-! ## Only the lines up to the call matter -/

/-- two listings have the same instructions and the same calls up to line `i` -/
structure SameRun (ls other : List Line) (i : Nat) : Prop where
  instruction : ∀ k ≤ i, instructionAt? ls k = instructionAt? other k
  callSite : ∀ k ≤ i, ∀ number, IsCallSite ls k number ↔ IsCallSite other k number

section SameRun

variable {ls other : List Line} {i : Nat}

theorem SameRun.mono {k : Nat} (h : SameRun ls other i) (hk : k ≤ i) : SameRun ls other k :=
  ⟨fun m hm => h.instruction m (hm.trans hk), fun m hm => h.callSite m (hm.trans hk)⟩

theorem SameRun.onLine (h : SameRun ls other i) (regs : RegisterFile) : onLine ls i regs = onLine other i regs := by
  simp only [MemorySetup.onLine, h.instruction i le_rfl, h.callSite i le_rfl]

theorem SameRun.reaching (h : SameRun ls other i) : reaching ls i = reaching other i := by
  induction i with
  | zero => rfl
  | succ i ih =>
    -- the move of the stack pointer is done along with the call before it, so line `i + 1` is looked at already
    have hbefore := h.mono (Nat.le_succ i)
    simp only [MemorySetup.reaching, afterLine, ih hbefore, hbefore.onLine, hbefore.callSite i le_rfl,
      h.instruction (i + 1) le_rfl]

theorem SameRun.registersAt (h : SameRun ls other i) : registersAt ls i = registersAt other i := by
  rw [MemorySetup.registersAt, MemorySetup.registersAt, h.reaching, h.onLine]

theorem SameRun.isLeast (h : SameRun ls other i) {target : CallNumber}
    (hi : IsLeast {k | IsCallSite ls k target} i) : IsLeast {k | IsCallSite other k target} i := by
  refine ⟨(h.callSite i le_rfl target).1 hi.1, fun k hk => ?_⟩
  by_contra hlt
  exact hlt (hi.2 ((h.callSite k (by omega) target).2 hk))

theorem sameRun_of_take_eq (h : ls.take (i + 1) = other.take (i + 1)) : SameRun ls other i := by
  have hget : ∀ k ≤ i, ls[k]? = other[k]? := by
    intro k hk
    have hls : (ls.take (i + 1))[k]? = ls[k]? := List.getElem?_take_of_lt (by omega)
    rw [← hls, h, List.getElem?_take_of_lt (by omega)]
  constructor
  · intro k hk
    rw [instructionAt?, instructionAt?, hget k hk]
  · intro k hk number
    rw [IsCallSite, IsCallSite, hget k hk, hget (k - 1) ((Nat.sub_le k 1).trans hk)]

theorem capture_congr (h : (trimmedReadings ls).take i = (trimmedReadings other).take i) (t : Tracked)
    (lookback : Nat) :
    AddressTrace.capture (trimmedReadings ls) t i lookback =
      AddressTrace.capture (trimmedReadings other) t i lookback := by
  simp only [AddressTrace.capture, AddressTrace.window, h]

end SameRun

/-- **First match.** A call is found exactly if it has a site. It is then found at its first site `i`, with the
registers that the run has at line `i` (a run that knows no target, so the calls found in one listing are taken from one
run) and with the traces from line `i` back. Site, registers and traces stay the same whatever text replaces the one
after line `i`. -/
theorem find?_first_match (text : List Char) (target : CallNumber) (lookback : Nat) :
    (SetupCall.find? text target lookback = none ↔ ∀ i, ¬ IsCallSite (lines text) i target) ∧
    ∀ i, IsLeast {k | IsCallSite (lines text) k target} i → ∃ call, SetupCall.find? text target lookback = some call ∧
      call.site = i ∧ call.registers = registersAt (lines text) i ∧
      call.a0Trace = AddressTrace.capture (trimmedReadings (lines text)) .a0 i lookback ∧
      call.a1Trace = AddressTrace.capture (trimmedReadings (lines text)) .a1 i lookback ∧
      ∀ other, (lines other).take (i + 1) = (lines text).take (i + 1) →
        ∃ found, SetupCall.find? other target lookback = some found ∧ found.site = call.site ∧
          found.registers = call.registers ∧ found.a0Trace = call.a0Trace ∧ found.a1Trace = call.a1Trace := by
  constructor
  · rw [find?_eq, Option.map_eq_none_iff, firstSite?_eq_none_iff]
  · intro i hi
    refine ⟨callFoundAt (lines text) target lookback i, ?_, rfl, rfl, rfl, rfl, fun other hother => ?_⟩
    · rw [find?_eq, firstSite?_eq_some_iff.2 hi]
      rfl
    · have hsame := sameRun_of_take_eq hother.symm
      have hlines : (lines other).take i = (lines text).take i := by
        simpa [List.take_take] using congrArg (List.take i) hother
      have hreadings : (trimmedReadings (lines other)).take i = (trimmedReadings (lines text)).take i := by
        simp only [trimmedReadings, ← List.map_take, hlines]
      refine ⟨callFoundAt (lines other) target lookback i, ?_, rfl, hsame.registersAt.symm,
        capture_congr hreadings _ _, capture_congr hreadings _ _⟩
      rw [find?_eq, firstSite?_eq_some_iff.2 (hsame.isLeast hi)]
      rfl

/-- setup code with both calls: the stack pointer is moved after the thread setup, and the heap setup is made twice -/
def bootLines : List Line :=
  [['l', 'u', 'i', ' ', 'a', '1', ',', '0', 'x', '2', '0', '0'],
    prepareThreadLine, syscallWord,
    moveStackLine,
    prepareHeapLine, syscallWord,
    ['l', 'u', 'i', ' ', 'a', '0', ',', '0', 'x', '6', '0'],
    prepareHeapLine, syscallWord]

/-- the first heap setup of that code is found, and still is when all after it is cut off -/
theorem find?_first_match_boot : IsLeast {k | IsCallSite (lines (unlines bootLines)) k CallNumber.setupHeap} 5 ∧
    ∃ call, SetupCall.find? (unlines bootLines) CallNumber.setupHeap 5 = some call ∧ call.site = 5 ∧
      call.registers.get .a0 = none ∧ call.registers.get .sp = some 0x02000000 ∧
      ∃ found, SetupCall.find? (unlines (bootLines.take 6)) CallNumber.setupHeap 5 = some found ∧
        found.registers = call.registers := by
  have hfirst : firstSite? (lines (unlines bootLines)) CallNumber.setupHeap = some 5 := by decide +kernel
  have hvalues : (registersAt (lines (unlines bootLines)) 5).get .a0 = none ∧
      (registersAt (lines (unlines bootLines)) 5).get .sp = some 0x02000000 := by decide +kernel
  have hleast := firstSite?_eq_some_iff.1 hfirst
  obtain ⟨call, hcall, hsite, hregs, -, -, hcut⟩ :=
    (find?_first_match (unlines bootLines) CallNumber.setupHeap 5).2 5 hleast
  obtain ⟨found, hfound, -, hsame, -, -⟩ := hcut (unlines (bootLines.take 6)) (by decide +kernel)
  exact ⟨hleast, call, hcall, hsite, hregs ▸ hvalues.1, hregs ▸ hvalues.2, found, hfound, hsame⟩

end MemorySetup
