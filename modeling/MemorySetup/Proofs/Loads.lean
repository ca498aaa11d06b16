/-
What an instruction loads, and how long a register keeps its value.

As far as it is followed, an instruction loads one register or none (`RegisterFile.loaded?`, `execute_eq`). The register
is its destination (`destination?_of_loaded?`), so every other register keeps its value (`get_execute_of_ne`). An `addiu`
adds to zero or to what is known of its source (`AddsTo`). The stack pointer is never read (`loaded?_congr`): no
instruction that is followed has it as its source.

Along a run, a register other than `v0` and `sp`, which kernel calls touch, keeps its value from line to line until an
instruction loads it (`get_registersAt_of_not_loadsAt`).
-/
import MemorySetup.Proofs.Machine
import MemorySetup.Proofs.ResultRegister

namespace MemorySetup

/-! ## One instruction -/

namespace RegisterFile

/-- the register that an instruction loads and the value it gets, known or not -/
def loaded? (regs : RegisterFile) : Instruction → Option (Tracked × Option UInt32)
  | .lui rt upper => (Tracked.among? Tracked.luiTargets rt).map fun t => (t, some (upper.toUInt32 <<< 16))
  | .addiu rt rs imm => (Tracked.among? Tracked.addiuTargets rt).bind fun t =>
      (regs.addiuBase? rs).map fun base => (t, some (base + imm.toUInt32))
  | .daddu rd rs rt =>
    if rt = Register.zero then
      (Tracked.among? Tracked.dadduTargets rd).bind fun t =>
        (Tracked.among? Tracked.dadduSources rs).bind fun source =>
          if source = .v0 ∧ regs.get source = none then none else some (t, regs.get source)
    else none
  | .syscall => none

/-- an instruction loads what it loads, and does nothing else -/
theorem execute_eq (regs : RegisterFile) (i : Instruction) :
    regs.execute i = (regs.loaded? i).elim regs fun load => regs.set load.1 load.2 := by
  cases i with
  | lui rt upper =>
    simp only [execute, executeLui, loaded?]
    cases Tracked.among? Tracked.luiTargets rt <;> rfl
  | addiu rt rs imm =>
    simp only [execute, executeAddiu, loaded?]
    cases Tracked.among? Tracked.addiuTargets rt <;> cases regs.addiuBase? rs <;> rfl
  | daddu rd rs rt =>
    simp only [execute, executeDaddu, loaded?]
    split_ifs with hrt
    · cases Tracked.among? Tracked.dadduTargets rd with
      | none => rfl
      | some t =>
        cases Tracked.among? Tracked.dadduSources rs with
        | none => rfl
        | some source =>
          simp only [Option.bind_some]
          split_ifs <;> rfl
    · rfl
  | syscall => rfl

theorem register_of_among? {allowed : List Tracked} {r : Register} {t : Tracked}
    (h : Tracked.among? allowed r = some t) : t.register = r :=
  Fin.ext (Tracked.ofNumber?_eq_some_iff.1 (Option.filter_eq_some_iff.1 h).1)

theorem among?_eq_some_iff {allowed : List Tracked} {r : Register} {t : Tracked} :
    Tracked.among? allowed r = some t ↔ t ∈ allowed ∧ t.register = r := by
  constructor
  · intro h
    exact ⟨mem_of_among? h, register_of_among? h⟩
  · rintro ⟨ht, rfl⟩
    exact among?_register ht

/-- what `addiu` adds to: zero, or what is known of a register that it may start from -/
def AddsTo (regs : RegisterFile) (rs : Register) (base : UInt32) : Prop :=
  rs = Register.zero ∧ base = 0 ∨
    ∃ source ∈ [Tracked.a0, .a1, .a2, .a3, .t0, .gp, .v0], source.register = rs ∧ regs.get source = some base

theorem addiuBase?_eq_some_iff {regs : RegisterFile} {rs : Register} {base : UInt32} :
    regs.addiuBase? rs = some base ↔ regs.AddsTo rs base := by
  unfold addiuBase? AddsTo
  split_ifs with hzero
  · rw [or_iff_left, Option.some.injEq, and_iff_right hzero, eq_comm]
    rintro ⟨source, -, rfl, -⟩
    cases source <;> cases hzero
  · rw [or_iff_right fun h => hzero h.1, Option.bind_eq_some_iff]
    simp only [among?_eq_some_iff, and_assoc]
    rfl

/-- from a source that it adds to, `addiu` stores the sum -/
theorem execute_addiu_of_addsTo {regs : RegisterFile} {rs : Register} {target : Tracked} {base : UInt32}
    (htarget : target ∈ Tracked.addiuTargets) (hbase : regs.AddsTo rs base) (imm : Int32) :
    regs.execute (.addiu target.register rs imm) = regs.set target (some (base + imm.toUInt32)) := by
  simp only [execute, executeAddiu, among?_register htarget, addiuBase?_eq_some_iff.2 hbase]

/-- from any other source it stores nothing -/
theorem execute_addiu_of_not_addsTo {regs : RegisterFile} {rs : Register} (h : ∀ base, ¬ regs.AddsTo rs base)
    (rt : Register) (imm : Int32) : regs.execute (.addiu rt rs imm) = regs := by
  have hnone : regs.addiuBase? rs = none :=
    Option.eq_none_iff_forall_ne_some.2 fun base hbase => h base (addiuBase?_eq_some_iff.1 hbase)
  rw [execute_eq, loaded?, hnone]
  cases Tracked.among? Tracked.addiuTargets rt <;> rfl

/-- the register that is loaded is the destination of the instruction -/
theorem destination?_of_loaded? {regs : RegisterFile} {i : Instruction} {t : Tracked} {value : Option UInt32}
    (h : regs.loaded? i = some (t, value)) : i.destination? = some t.register := by
  cases i with
  | lui rt upper =>
    obtain ⟨u, hu, heq⟩ := Option.map_eq_some_iff.1 h
    obtain ⟨rfl, -⟩ := Prod.mk.inj heq
    rw [register_of_among? hu]
    rfl
  | addiu rt rs imm =>
    obtain ⟨u, hu, hbase⟩ := Option.bind_eq_some_iff.1 h
    obtain ⟨base, -, heq⟩ := Option.map_eq_some_iff.1 hbase
    obtain ⟨rfl, -⟩ := Prod.mk.inj heq
    rw [register_of_among? hu]
    rfl
  | daddu rd rs rt =>
    simp only [loaded?] at h
    split_ifs at h
    obtain ⟨u, hu, hsource⟩ := Option.bind_eq_some_iff.1 h
    obtain ⟨source, -, hcopy⟩ := Option.bind_eq_some_iff.1 hsource
    split_ifs at hcopy
    obtain ⟨rfl, -⟩ := Prod.mk.inj (Option.some.inj hcopy)
    rw [register_of_among? hu]
    rfl
  | syscall => cases h

/-- a register that is not the destination keeps its value -/
theorem get_execute_of_ne {i : Instruction} {t : Tracked} (h : i.destination? ≠ some t.register)
    (regs : RegisterFile) : (regs.execute i).get t = regs.get t := by
  rw [execute_eq]
  cases hload : regs.loaded? i with
  | none => rfl
  | some load =>
    obtain ⟨u, value⟩ := load
    have hne : t ≠ u := fun heq => h (heq ▸ destination?_of_loaded? hload)
    exact (get_set regs u t value).trans (if_neg hne)

/-- no instruction reads the stack pointer -/
theorem loaded?_congr {regs other : RegisterFile} (h : ∀ t, t ≠ .sp → regs.get t = other.get t) (i : Instruction) :
    regs.loaded? i = other.loaded? i := by
  have hsource : ∀ {allowed : List Tracked} {r : Register} {t : Tracked}, .sp ∉ allowed →
      Tracked.among? allowed r = some t → regs.get t = other.get t :=
    fun hsp ht => h _ fun heq => hsp (heq ▸ mem_of_among? ht)
  cases i with
  | lui rt upper => rfl
  | addiu rt rs imm =>
    have hbase : regs.addiuBase? rs = other.addiuBase? rs := by
      unfold addiuBase?
      split_ifs
      · rfl
      · exact Option.bind_congr fun t ht => hsource (by decide) ht
    simp only [loaded?, hbase]
  | daddu rd rs rt =>
    simp only [loaded?]
    split_ifs
    · refine Option.bind_congr fun t _ => Option.bind_congr fun source ht => ?_
      rw [hsource (by decide) ht]
    · rfl
  | syscall => rfl

end RegisterFile

/-! ## Along a run -/

/-- the instruction on line `k` has a tracked register as its destination -/
def LoadsAt (ls : List Text.Line) (t : Tracked) (k : Nat) : Prop :=
  ∃ i, instructionAt? ls k = some i ∧ i.destination? = some t.register

instance (ls : List Text.Line) (t : Tracked) (k : Nat) : Decidable (LoadsAt ls t k) :=
  decidable_of_iff ((instructionAt? ls k).bind Instruction.destination? = some t.register) Option.bind_eq_some_iff

section Run

variable {ls : List Text.Line} {t : Tracked} {p n : Nat}

/-- between two lines only the stack pointer may change -/
theorem get_reaching_succ (hsp : t ≠ .sp) (n : Nat) : (reaching ls (n + 1)).get t = (registersAt ls n).get t := by
  change (afterLine ls n (registersAt ls n)).get t = _
  unfold afterLine
  split_ifs
  · rw [RegisterFile.get_set, if_neg hsp]
  · rfl

/-- a call touches the result register only -/
theorem get_onLine (hv0 : t ≠ .v0) (n : Nat) (regs : RegisterFile) :
    (onLine ls n regs).get t = ((instructionAt? ls n).elim regs regs.execute).get t := by
  unfold onLine
  split_ifs
  · rw [RegisterFile.get_set, if_neg hv0]
  · rfl

theorem get_onLine_of_not_loadsAt (hv0 : t ≠ .v0) (h : ¬ LoadsAt ls t n) (regs : RegisterFile) :
    (onLine ls n regs).get t = regs.get t := by
  rw [get_onLine hv0]
  cases hi : instructionAt? ls n with
  | none => rfl
  | some i => exact RegisterFile.get_execute_of_ne (fun hdest => h ⟨i, hi, hdest⟩) regs

/-- a register keeps its value over the lines that do not load it -/
theorem get_registersAt_of_not_loadsAt (hv0 : t ≠ .v0) (hsp : t ≠ .sp) (hpn : p ≤ n)
    (h : ∀ k, p < k → k ≤ n → ¬ LoadsAt ls t k) : (registersAt ls n).get t = (registersAt ls p).get t := by
  induction n, hpn using Nat.le_induction with
  | base => rfl
  | succ n hpn ih =>
    calc (registersAt ls (n + 1)).get t
        = (reaching ls (n + 1)).get t := get_onLine_of_not_loadsAt hv0 (h (n + 1) (by omega) le_rfl) _
      _ = (registersAt ls n).get t := get_reaching_succ hsp n
      _ = (registersAt ls p).get t := ih fun k hpk hkn => h k hpk (by omega)

end Run

end MemorySetup
