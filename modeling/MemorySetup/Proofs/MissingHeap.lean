/-
When a report denies the heap setup.

A report without a heap base is one line, which says that no heap setup was found in the listing; a session logs the
loss of its heap base in the same words. But there are two ways to have no base: no line makes the call, or the call is
there and `a0` is unknown at it. The second one is a matter of the whole run up to the call.
- `loadAt?` is what a line loads, and with which value; `get_registersAt_of_load` and `get_registersAt_of_no_load` say
  all that a line does to a register;
- `get_reaching_eq_none_iff`: a register is unknown if every load with a known value was followed by one with an unknown
  value;
- `loaded?_known_iff`, `loaded?_unknown_iff`: the forms of instructions that load `a0` with the one and with the other.
`heap_denied_iff` is the exact condition under which the report and the log deny the heap setup. It holds of a listing
that has the call and nothing else (`heap_denied_at_call`), so the denial is wrong there.
-/
import MemorySetup.Proofs.Loads
import MemorySetup.Proofs.Log

namespace MemorySetup

open Text

/-! ## Loads along a run -/

/-- the register that is loaded on line `k`, and its value, known or not -/
def loadAt? (ls : List Line) (k : Nat) : Option (Tracked × Option UInt32) :=
  (instructionAt? ls k).bind (reaching ls k).loaded?

section Run

variable {ls : List Line} {t : Tracked} {n : Nat}

theorem get_registersAt (hv0 : t ≠ .v0) (n : Nat) : (registersAt ls n).get t =
    ((loadAt? ls n).elim (reaching ls n) fun load => (reaching ls n).set load.1 load.2).get t := by
  rw [registersAt, get_onLine hv0, loadAt?]
  cases instructionAt? ls n with
  | none => rfl
  | some i => exact congrArg (RegisterFile.get · t) (RegisterFile.execute_eq _ i)

theorem get_registersAt_of_load (hv0 : t ≠ .v0) {value : Option UInt32} (h : loadAt? ls n = some (t, value)) :
    (registersAt ls n).get t = value := by
  rw [get_registersAt hv0, h]
  exact (RegisterFile.get_set _ t t value).trans (if_pos rfl)

theorem get_registersAt_of_no_load (hv0 : t ≠ .v0) (h : ∀ value, loadAt? ls n ≠ some (t, value)) :
    (registersAt ls n).get t = (reaching ls n).get t := by
  rw [get_registersAt hv0]
  cases hload : loadAt? ls n with
  | none => rfl
  | some load =>
    obtain ⟨u, value⟩ := load
    have hne : t ≠ u := fun heq => h value (heq ▸ hload)
    exact (RegisterFile.get_set _ u t value).trans (if_neg hne)

/-- a register is unknown if each load of a known value was followed by a load of an unknown one -/
theorem get_reaching_eq_none_iff (hv0 : t ≠ .v0) (hsp : t ≠ .sp) (n : Nat) : (reaching ls n).get t = none ↔
    ∀ k < n, ∀ value, loadAt? ls k = some (t, some value) → ∃ m, k < m ∧ m < n ∧ loadAt? ls m = some (t, none) := by
  induction n with
  | zero => simp [reaching]
  | succ n ih =>
    rw [get_reaching_succ hsp]
    by_cases hload : ∃ value, loadAt? ls n = some (t, value)
    · obtain ⟨value, hload⟩ := hload
      rw [get_registersAt_of_load hv0 hload]
      cases value with
      | none =>
        -- what was loaded before is forgotten on this line
        refine iff_of_true rfl fun k hk value hvalue => ⟨n, ?_, Nat.lt_succ_self n, hload⟩
        have hne : k ≠ n := by
          rintro rfl
          rw [hload] at hvalue
          cases hvalue
        omega
      | some value =>
        refine iff_of_false (Option.some_ne_none value) fun h => ?_
        obtain ⟨m, hnm, hmn, -⟩ := h n (Nat.lt_succ_self n) value hload
        omega
    · have hnone : ∀ value, loadAt? ls n ≠ some (t, value) := not_exists.1 hload
      rw [get_registersAt_of_no_load hv0 hnone, ih]
      constructor
      · intro h k hk value hvalue
        have hne : k ≠ n := fun heq => hnone _ (heq ▸ hvalue)
        obtain ⟨m, hkm, hmn, hm⟩ := h k (by omega) value hvalue
        exact ⟨m, hkm, by omega, hm⟩
      · intro h k hk value hvalue
        obtain ⟨m, hkm, hmn, hm⟩ := h k (by omega) value hvalue
        have hne : m ≠ n := fun heq => hnone _ (heq ▸ hm)
        exact ⟨m, hkm, by omega, hm⟩

end Run

/-! ## Loads of the heap base -/

namespace RegisterFile

variable {regs : RegisterFile}

/-- an instruction makes `a0` known: it loads the upper half, adds to zero or to a known register, or copies a known
register -/
def GivesBase (regs : RegisterFile) : Instruction → Prop
  | .lui rt _ => rt = Tracked.a0.register
  | .addiu rt rs _ => rt = Tracked.a0.register ∧ (rs = Register.zero ∨
      ∃ source ∈ [Tracked.a0, .a1, .a2, .a3, .t0, .gp, .v0], source.register = rs ∧ regs.get source ≠ none)
  | .daddu rd rs rt => rd = Tracked.a0.register ∧ rt = Register.zero ∧
      ∃ source ∈ [Tracked.a0, .a1, .a2, .a3, .v0], source.register = rs ∧ regs.get source ≠ none
  | .syscall => False

/-- an instruction makes `a0` unknown: it copies an argument register that is unknown -/
def LosesBase (regs : RegisterFile) : Instruction → Prop
  | .daddu rd rs rt => rd = Tracked.a0.register ∧ rt = Register.zero ∧
      ∃ source ∈ [Tracked.a0, .a1, .a2, .a3], source.register = rs ∧ regs.get source = none
  | _ => False

/-- every form of load has `a0` among its targets -/
theorem among?_eq_a0_iff {allowed : List Tracked} (h : Tracked.a0 ∈ allowed) {r : Register} :
    Tracked.among? allowed r = some .a0 ↔ r = Tracked.a0.register := by
  rw [among?_eq_some_iff, and_iff_right h, eq_comm]

/-- where `addiu` finds a known value to add to -/
theorem addiuBase?_known_iff {rs : Register} : (∃ base, regs.addiuBase? rs = some base) ↔ rs = Register.zero ∨
    ∃ source ∈ [Tracked.a0, .a1, .a2, .a3, .t0, .gp, .v0], source.register = rs ∧ regs.get source ≠ none := by
  simp only [addiuBase?_eq_some_iff, AddsTo, Option.ne_none_iff_exists', exists_or, exists_and_left, exists_eq, and_true]
  grind

/-- a copy into `a0` takes over what is known of its source, except that an unknown result register is not copied -/
theorem loaded?_daddu_iff {rd rs rt : Register} {value : Option UInt32} :
    regs.loaded? (.daddu rd rs rt) = some (.a0, value) ↔ rd = Tracked.a0.register ∧ rt = Register.zero ∧
      ∃ source ∈ [Tracked.a0, .a1, .a2, .a3, .v0], source.register = rs ∧ regs.get source = value ∧
        ¬ (source = .v0 ∧ value = none) := by
  constructor
  · intro h
    simp only [loaded?] at h
    split_ifs at h with hrt
    obtain ⟨target, htarget, hrest⟩ := Option.bind_eq_some_iff.1 h
    obtain ⟨source, hsource, hcopy⟩ := Option.bind_eq_some_iff.1 hrest
    split_ifs at hcopy with hv0
    obtain ⟨rfl, rfl⟩ := Prod.mk.inj (Option.some.inj hcopy)
    obtain ⟨hmem, hregister⟩ := among?_eq_some_iff.1 hsource
    exact ⟨(among?_eq_a0_iff (by decide)).1 htarget, hrt, source, hmem, hregister, rfl, hv0⟩
  · rintro ⟨rfl, rfl, source, hmem, rfl, rfl, hv0⟩
    have htarget : Tracked.among? Tracked.dadduTargets Tracked.a0.register = some .a0 := rfl
    have hsource : Tracked.among? Tracked.dadduSources source.register = some source := among?_register hmem
    simp only [loaded?, if_true, htarget, hsource, Option.bind_some, if_neg hv0]

/-- the loads that make `a0` known -/
theorem loaded?_known_iff {i : Instruction} : (∃ value, regs.loaded? i = some (.a0, some value)) ↔ regs.GivesBase i := by
  cases i with
  | lui rt upper =>
    have htarget : (∃ value, regs.loaded? (.lui rt upper) = some (.a0, some value)) ↔
        Tracked.among? Tracked.luiTargets rt = some .a0 := by
      simp [loaded?]
    rw [htarget, among?_eq_a0_iff (by decide)]
    rfl
  | addiu rt rs imm =>
    have htarget : (∃ value, regs.loaded? (.addiu rt rs imm) = some (.a0, some value)) ↔
        Tracked.among? Tracked.addiuTargets rt = some .a0 ∧ ∃ base, regs.addiuBase? rs = some base := by
      simp [loaded?, Option.bind_eq_some_iff]
    rw [htarget, among?_eq_a0_iff (by decide), addiuBase?_known_iff]
    rfl
  | daddu rd rs rt =>
    simp only [loaded?_daddu_iff, GivesBase, Option.ne_none_iff_exists']
    grind
  | syscall => simp [loaded?, GivesBase]

/-- the loads that make `a0` unknown -/
theorem loaded?_unknown_iff {i : Instruction} : regs.loaded? i = some (.a0, none) ↔ regs.LosesBase i := by
  cases i with
  | lui rt upper => simp [loaded?, LosesBase]
  | addiu rt rs imm => simp [loaded?, LosesBase, Option.bind_eq_some_iff]
  | daddu rd rs rt =>
    simp only [loaded?_daddu_iff, LosesBase]
    grind
  | syscall => simp [loaded?, LosesBase]

end RegisterFile

/-! ## A missing heap base -/

/-- the instruction on line `k` makes `a0` known -/
def GivesBaseAt (ls : List Line) (k : Nat) : Prop :=
  ∃ i, instructionAt? ls k = some i ∧ (reaching ls k).GivesBase i

/-- the instruction on line `k` makes `a0` unknown -/
def LosesBaseAt (ls : List Line) (k : Nat) : Prop :=
  ∃ i, instructionAt? ls k = some i ∧ (reaching ls k).LosesBase i

/-- whatever is given to `a0` up to line `n` is lost again -/
def BaseLostAt (ls : List Line) (n : Nat) : Prop :=
  ∀ k ≤ n, GivesBaseAt ls k → ∃ m, k < m ∧ m ≤ n ∧ LosesBaseAt ls m

theorem givesBaseAt_iff {ls : List Line} {k : Nat} :
    GivesBaseAt ls k ↔ ∃ value, loadAt? ls k = some (.a0, some value) := by
  simp only [GivesBaseAt, ← RegisterFile.loaded?_known_iff, loadAt?, Option.bind_eq_some_iff]
  tauto

theorem losesBaseAt_iff {ls : List Line} {k : Nat} : LosesBaseAt ls k ↔ loadAt? ls k = some (.a0, none) := by
  simp only [LosesBaseAt, ← RegisterFile.loaded?_unknown_iff, loadAt?, Option.bind_eq_some_iff]

theorem get_a0_registersAt_eq_none_iff (ls : List Line) (n : Nat) :
    (registersAt ls n).get .a0 = none ↔ BaseLostAt ls n := by
  rw [← get_reaching_succ (by decide), get_reaching_eq_none_iff (by decide) (by decide)]
  simp only [BaseLostAt, givesBaseAt_iff, losesBaseAt_iff, Nat.lt_succ_iff, forall_exists_index]

/-- no line makes the call that sets up the heap -/
def NoHeapSetup (ls : List Line) : Prop :=
  ∀ i, ¬ IsCallSite ls i CallNumber.setupHeap

/-- the first line that makes the call is reached without a value in `a0` -/
def HeapBaseLost (ls : List Line) : Prop :=
  ∃ i, IsLeast {k | IsCallSite ls k CallNumber.setupHeap} i ∧ BaseLostAt ls i

namespace MemoryReport

theorem heapBase?_eq_none_iff (text : List Char) (lookback : Nat) :
    (ofText text lookback).heapBase? = none ↔ NoHeapSetup (Text.lines text) ∨ HeapBaseLost (Text.lines text) := by
  rw [heapBase?_ofText]
  cases hsite : firstSite? (Text.lines text) CallNumber.setupHeap with
  | none => exact iff_of_true rfl (Or.inl (firstSite?_eq_none_iff.1 hsite))
  | some i =>
    have hleast := firstSite?_eq_some_iff.1 hsite
    have hcall : ¬ NoHeapSetup (Text.lines text) := fun h => h i hleast.1
    rw [Option.bind_some, get_a0_registersAt_eq_none_iff, or_iff_right hcall]
    constructor
    · intro h
      exact ⟨i, hleast, h⟩
    · rintro ⟨j, hj, h⟩
      rwa [hleast.unique hj]

/-- a report denies the heap setup if it has no heap base -/
theorem lines_eq_noHeapLine_iff (report : MemoryReport) : report.lines = [noHeapLine] ↔ report.heapBase? = none := by
  cases hheap : report.heapSetup? with
  | none => simp [lines, heapBase?, hheap]
  | some heap => cases hbase : report.heapBase? <;> simp [lines, hheap, hbase]

end MemoryReport

namespace Interactive

/-- the loss of the heap base is the only change that is logged as a missing heap setup -/
theorem changeMessages_eq_denial_iff (previous current : Option UInt32) :
    changeMessages previous current = [baseMessage none] ↔ previous ≠ none ∧ current = none := by
  unfold changeMessages
  split_ifs with h
  · subst h
    simp
  · rw [List.singleton_inj, baseMessage_injective.eq_iff]
    constructor
    · rintro rfl
      exact ⟨Ne.symm h, rfl⟩
    · exact And.right

/-- the line on an executable is no denial of a heap setup -/
theorem headerMessage_ne_denial (header : Executable.Header) : headerMessage header ≠ baseMessage none := by
  unfold headerMessage
  intro h
  -- the messages differ in their first character
  have hchar := congrArg (fun message => message.toList[0]?) h
  simp only [String.toList_append, List.append_assoc] at hchar
  rw [List.getElem?_append_left (by decide)] at hchar
  exact absurd hchar (by decide)

/-- a session has no heap base to lose when it starts -/
theorem denial_notMem_ofListing {α κ : Type} [TextArea α κ] (listing : List Char) (header? : Option Executable.Header)
    (lookback : Nat) : baseMessage none ∉ (Session.ofListing listing header? lookback : Session α).logs := by
  intro h
  rcases List.mem_append.1 h with h | h
  · obtain ⟨header, -, hmessage⟩ := List.mem_map.1 h
    exact headerMessage_ne_denial header hmessage
  · unfold changeMessages at h
    split_ifs at h with hnone
    · cases h
    · exact hnone (baseMessage_injective (List.mem_singleton.1 h)).symm

end Interactive

/-! ## The denial -/

open Interactive Session

/-- **When the heap setup is denied.** A report is the single line that denies the heap setup exactly if no line makes
the call, or if the first line that makes it is reached with `a0` unknown: every line up to the call that gave `a0` a
value is followed by one that copied an unknown register to it. This does not depend on the lookback.
A session never starts with such a message in its log. It logs one when the report is made anew exactly if it had a heap
base before and the text now has no call or has the call with `a0` unknown. -/
theorem heap_denied_iff {α κ : Type} [TextArea α κ] (text : List Char) (lookback : Nat) :
    ((MemoryReport.ofText text lookback).lines = ["No dynamic heap setup (syscall 0x3D) found in the listing"] ↔
      NoHeapSetup (lines text) ∨ HeapBaseLost (lines text)) ∧
    (∀ header?, "Heap setup (syscall 0x3D) not found" ∉ (ofListing text header? lookback : Session α).logs) ∧
    ∀ s : Session α, TextArea.text s.editor = text →
      (s.reanalyze.logs = s.logs ++ ["Heap setup (syscall 0x3D) not found"] ↔
        s.report.heapBase? ≠ none ∧ (NoHeapSetup (lines text) ∨ HeapBaseLost (lines text))) := by
  refine ⟨?_, fun header? => denial_notMem_ofListing text header? lookback, ?_⟩
  · rw [← MemoryReport.heapBase?_eq_none_iff text lookback]
    exact MemoryReport.lines_eq_noHeapLine_iff _
  · rintro s rfl
    rw [← MemoryReport.heapBase?_eq_none_iff _ s.lookback]
    have hlogs : s.reanalyze.logs = s.logs ++ changeMessages s.report.heapBase?
        (MemoryReport.ofText (TextArea.text s.editor) s.lookback).heapBase? := rfl
    rw [hlogs, List.append_right_inj]
    exact changeMessages_eq_denial_iff _ _

/-- a heap setup whose base is overwritten with an unknown register -/
def copiedBaseLines : List Line :=
  [['l', 'u', 'i', ' ', 'a', '0', ',', '0', 'x', '1', '0'],
    ['d', 'a', 'd', 'd', 'u', ' ', 'a', '0', ',', 'a', '1', ',', 'z', 'e', 'r', 'o'],
    prepareHeapLine, syscallWord]

/-- a session with a heap base logs its loss when that setup is put into the editor -/
theorem heap_denied_iff_copiedBase :
    let s : Session := (ofListing (unlines (heapLines ['1', '0'])) none 5).setLines copiedBaseLines
    TextArea.text s.editor = unlines copiedBaseLines ∧ HeapBaseLost (lines (unlines copiedBaseLines)) ∧
      s.reanalyze.logs = s.logs ++ ["Heap setup (syscall 0x3D) not found"] := by
  intro s
  obtain ⟨hreport, -, hlog⟩ := @heap_denied_iff Editor Key _ (unlines copiedBaseLines) 5
  have hlost : HeapBaseLost (lines (unlines copiedBaseLines)) := by
    have hcall : IsCallSite (lines (unlines copiedBaseLines)) 3 CallNumber.setupHeap := by decide +kernel
    exact (hreport.1 (by decide +kernel)).resolve_left fun h => h 3 hcall
  exact ⟨rfl, hlost, (hlog s rfl).2 ⟨by decide +kernel, Or.inr hlost⟩⟩

/-- the call that sets up the heap, with nothing before it -/
def bareCallLines : List Line :=
  [prepareHeapLine, syscallWord]

/-- **A heap setup that is there is denied**: the listing makes the call, and both the report and the log say that it
was not found -/
theorem heap_denied_at_call : IsCallSite (lines (unlines bareCallLines)) 1 CallNumber.setupHeap ∧
    (MemoryReport.ofText (unlines bareCallLines) 5).lines =
      ["No dynamic heap setup (syscall 0x3D) found in the listing"] ∧
    ((ofListing (unlines (heapLines ['1', '0'])) none 5 : Session).operate (.setLines bareCallLines)).logs =
      ["Heap base 0x00100000 is inside EE RAM", "Heap setup (syscall 0x3D) not found"] := by
  decide +kernel

end MemorySetup
