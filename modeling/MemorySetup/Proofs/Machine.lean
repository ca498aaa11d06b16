/-
The followed registers against a concrete machine.

`Machine` has all 32 registers with 32-bit contents, and register zero holds zero. It executes every instruction that
can be read, from arbitrary contents at first; the thread setup returns `a1` in `v0`.

A tracked register is determined (`determinedAfter`) while its contents follow from the listing alone: `lui` determines
its target, `addiu` and `daddu` pass determination on from their source or take it away. The instructions that the
simulation supports are `Instruction.Supported`; others may occur as long as they load no tracked register.

The simulation does two things that the machine does not. It keeps the old value where `addiu`, or `daddu` from `v0`,
has an unknown source; such a target is no longer determined. And it adopts the stack pointer one line early; the line
that follows moves it again. So the invariant of a run (`AgreeBefore`) exempts `sp` right before such a line.

`registers_exact`: at a found call, the registers known to be determined are known with the machine's contents, whatever
the machine held at first; of any other register no value is right for every machine.
-/
import Mathlib.Algebra.Group.Int.Defs
import Mathlib.Data.Finset.Basic
import MemorySetup.Proofs.CallSites

namespace MemorySetup

open Text

/-! ## The machine -/

/-- the contents of all registers; register zero holds zero -/
structure Machine where
  contents : Register → UInt32
  zero : contents Register.zero = 0

namespace Machine

/-- load a register; register zero cannot be loaded -/
def write (m : Machine) (r : Register) (value : UInt32) : Machine :=
  if h : r = Register.zero then m
  else ⟨Function.update m.contents r value, by rw [Function.update_of_ne (Ne.symm h)]; exact m.zero⟩

/-- execute an instruction, with sums modulo 2^32 -/
def execute (m : Machine) : Instruction → Machine
  | .lui rt upper => m.write rt (UInt32.ofNat (upper.toNat * 0x10000))
  | .addiu rt rs imm => m.write rt (m.contents rs + UInt32.ofInt imm.toInt)
  | .daddu rd rs rt => m.write rd (m.contents rs + m.contents rt)
  | .syscall => m

/-- execute line `i`, and return the stack pointer if it is a thread setup -/
def executeLine (m : Machine) (ls : List Line) (i : Nat) : Machine :=
  let executed := (instructionAt? ls i).elim m m.execute
  if IsCallSite ls i CallNumber.setupThread then
    executed.write Tracked.v0.register (executed.contents Tracked.a1.register)
  else executed

/-- the machine after the first lines of a listing -/
def after (m : Machine) (ls : List Line) : Nat → Machine
  | 0 => m
  | n + 1 => (m.after ls n).executeLine ls n

/-- a machine with the same contents in every register but zero -/
def filled (value : UInt32) : Machine :=
  ⟨fun r => if r = Register.zero then 0 else value, rfl⟩

theorem contents_filled (value : UInt32) (t : Tracked) : (filled value).contents t.register = value := by
  cases t <;> rfl

/-- a write as the tracked registers see it -/
theorem contents_write (m : Machine) (r : Register) (value : UInt32) (t : Tracked) :
    (m.write r value).contents t.register = if t.register = r then value else m.contents t.register := by
  unfold write
  split_ifs with hr ht ht
  · subst hr
    cases t <;> cases ht
  · rfl
  · exact ht ▸ Function.update_self _ _ _
  · exact Function.update_of_ne ht _ _

end Machine

theorem toUInt32_shiftLeft (upper : UInt16) : upper.toUInt32 <<< 16 = UInt32.ofNat (upper.toNat * 0x10000) := by
  apply UInt32.toNat_inj.1
  have hlt := upper.toNat_lt
  simp [Nat.shiftLeft_eq]

theorem toNat_ofInt (value : Int) : ((UInt32.ofInt value).toNat : Int) = value % 2 ^ 32 := by
  rw [UInt32.ofInt, UInt32.toNat_ofNat']
  omega

/-- the 32-bit word of a number is the same with and without a signed word on the way -/
theorem toUInt32_ofInt (value : Int) : (Int32.ofInt value).toUInt32 = UInt32.ofInt value := by
  apply UInt32.toNat_inj.1
  rw [← UInt32.toNat_toBitVec, Int32.toBitVec_toUInt32, Int32.toBitVec_ofInt, BitVec.toNat_ofInt, UInt32.ofInt,
    UInt32.toNat_ofNat']
  omega

theorem ofInt_toInt (imm : Int32) : UInt32.ofInt imm.toInt = imm.toUInt32 := by
  rw [← toUInt32_ofInt, Int32.ofInt_toInt]

/-! ## Determined registers -/

/-- a register holds a determined value: it is a determined register of those tracked -/
def HoldsDetermined (known : Finset Tracked) (r : Register) : Prop :=
  ∃ t ∈ known, t.register = r

instance (known : Finset Tracked) (r : Register) : Decidable (HoldsDetermined known r) :=
  inferInstanceAs (Decidable (∃ t ∈ known, _))

/-- a load of register `r` determines it, or takes its determination away -/
def determine (known : Finset Tracked) (r : Register) (determined : Prop) [Decidable determined] : Finset Tracked :=
  match Tracked.ofRegister? r with
  | some t => if determined then insert t known else known.erase t
  | none => known

/-- what an instruction determines -/
def determineBy (known : Finset Tracked) : Instruction → Finset Tracked
  | .lui rt _ => determine known rt True
  | .addiu rt rs _ => determine known rt (rs = Register.zero ∨ HoldsDetermined known rs)
  | .daddu rd rs rt => determine known rd (rt = Register.zero ∧ HoldsDetermined known rs)
  | .syscall => known

/-- what line `i` determines -/
def determineOnLine (known : Finset Tracked) (ls : List Line) (i : Nat) : Finset Tracked :=
  let executed := (instructionAt? ls i).elim known (determineBy known)
  if IsCallSite ls i CallNumber.setupThread then determine executed Tracked.v0.register (.a1 ∈ executed) else executed

/-- the registers determined after the first lines of a listing -/
def determinedAfter (ls : List Line) : Nat → Finset Tracked
  | 0 => ∅
  | n + 1 => determineOnLine (determinedAfter ls n) ls n

theorem register_injective {t u : Tracked} (h : t.register = u.register) : t = u :=
  Option.some.inj ((Tracked.ofRegister?_register t).symm.trans ((congrArg _ h).trans (Tracked.ofRegister?_register u)))

theorem mem_determine {known : Finset Tracked} {r : Register} {determined : Prop} [Decidable determined] {t : Tracked} :
    t ∈ determine known r determined ↔ if t.register = r then determined else t ∈ known := by
  unfold determine
  cases hr : Tracked.ofRegister? r with
  | none =>
    have hne : t.register ≠ r := fun h => by rw [← h, Tracked.ofRegister?_register] at hr; cases hr
    rw [if_neg hne]
  | some u =>
    have hu : u.register = r := Fin.ext (Tracked.ofNumber?_eq_some_iff.1 hr)
    subst hu
    by_cases ht : t = u
    · subst ht
      by_cases hd : determined <;> simp [hd]
    · have hne : t.register ≠ u.register := fun h => ht (register_injective h)
      by_cases hd : determined <;> simp [hd, ht, hne]

theorem holdsDetermined_register {known : Finset Tracked} {t : Tracked} :
    HoldsDetermined known t.register ↔ t ∈ known :=
  ⟨fun ⟨_, hu, h⟩ => register_injective h ▸ hu, fun h => ⟨t, h, rfl⟩⟩

/-! ## Supported instructions -/

/-- one of the given tracked registers -/
def OneOf (allowed : List Tracked) (r : Register) : Prop :=
  ∃ t ∈ allowed, t.register = r

instance (allowed : List Tracked) (r : Register) : Decidable (OneOf allowed r) :=
  inferInstanceAs (Decidable (∃ t ∈ allowed, _))

namespace Instruction

/-- the register that an instruction loads -/
def destination? : Instruction → Option Register
  | lui rt _ => some rt
  | addiu rt _ _ => some rt
  | daddu rd _ _ => some rd
  | syscall => none

/-- the forms of loads that are followed -/
def Supported : Instruction → Prop
  | lui rt _ => OneOf [.a0, .a1, .a2, .a3, .t0, .gp] rt
  | addiu rt rs _ => OneOf [.a0, .a1, .a2, .a3, .t0, .gp, .sp] rt ∧
      (rs = Register.zero ∨ OneOf [.a0, .a1, .a2, .a3, .t0, .gp, .v0] rs)
  | daddu rd rs rt => OneOf [.gp, .sp, .a0, .a1, .a2, .a3] rd ∧ OneOf [.a0, .a1, .a2, .a3, .v0] rs ∧
      rt = Register.zero
  | syscall => True

instance : DecidablePred Supported
  | lui _ _ => inferInstanceAs (Decidable (OneOf _ _))
  | addiu _ _ _ => inferInstanceAs (Decidable (_ ∧ (_ ∨ _)))
  | daddu _ _ _ => inferInstanceAs (Decidable (_ ∧ _ ∧ _))
  | syscall => inferInstanceAs (Decidable True)

/-- an instruction loads a tracked register -/
def LoadsTracked (i : Instruction) : Prop :=
  ∃ t : Tracked, i.destination? = some t.register

instance : DecidablePred LoadsTracked := fun i =>
  decidable_of_iff (∃ t ∈ Tracked.all, i.destination? = some t.register)
    ⟨fun ⟨t, _, h⟩ => ⟨t, h⟩, fun ⟨t, h⟩ => ⟨t, by cases t <;> decide, h⟩⟩

end Instruction

theorem among?_register {allowed : List Tracked} {t : Tracked} (h : t ∈ allowed) :
    Tracked.among? allowed t.register = some t := by
  simp [Tracked.among?, h]

theorem among?_untracked {allowed : List Tracked} {r : Register} (h : ∀ t : Tracked, t.register ≠ r) :
    Tracked.among? allowed r = none := by
  have hr : Tracked.ofRegister? r = none := by
    cases hr : Tracked.ofRegister? r with
    | none => rfl
    | some t => exact absurd (Fin.ext (Tracked.ofNumber?_eq_some_iff.1 hr)) (h t)
  rw [Tracked.among?, hr]
  rfl

/-- an instruction that loads no tracked register leaves the followed registers alone -/
theorem execute_untracked {i : Instruction} (regs : RegisterFile) (h : ¬ i.LoadsTracked) : regs.execute i = regs := by
  cases i with
  | lui rt upper =>
    have hrt : ∀ t : Tracked, t.register ≠ rt := fun t ht => h ⟨t, congrArg some ht.symm⟩
    simp [RegisterFile.execute, RegisterFile.executeLui, among?_untracked hrt]
  | addiu rt rs imm =>
    have hrt : ∀ t : Tracked, t.register ≠ rt := fun t ht => h ⟨t, congrArg some ht.symm⟩
    simp [RegisterFile.execute, RegisterFile.executeAddiu, among?_untracked hrt]
  | daddu rd rs rt =>
    have hrd : ∀ t : Tracked, t.register ≠ rd := fun t ht => h ⟨t, congrArg some ht.symm⟩
    simp [RegisterFile.execute, RegisterFile.executeDaddu, among?_untracked hrd]
  | syscall => rfl

/-! ## Agreement on the determined registers -/

/-- the determined registers are known, with the contents that the machine has -/
def Agree (regs : RegisterFile) (known : Finset Tracked) (m : Machine) : Prop :=
  ∀ t ∈ known, regs.get t = some (m.contents t.register)

section Step

variable {regs : RegisterFile} {known : Finset Tracked} {m : Machine}

/-- a load of one register; what was known of that register before does not matter -/
theorem agree_load {r : Register} {value : UInt32} {determined : Prop} [Decidable determined] {loaded : RegisterFile}
    (hbefore : ∀ t ∈ known, t.register ≠ r → regs.get t = some (m.contents t.register))
    (hother : ∀ t, t.register ≠ r → loaded.get t = regs.get t)
    (hloaded : determined → ∀ t, t.register = r → loaded.get t = some value) :
    Agree loaded (determine known r determined) (m.write r value) := by
  intro t ht
  rw [mem_determine] at ht
  rw [Machine.contents_write]
  by_cases hr : t.register = r
  · rw [if_pos hr] at ht ⊢
    exact hloaded ht t hr
  · rw [if_neg hr] at ht ⊢
    rw [hother t hr, hbefore t ht hr]

/-- setting a register gives it the value and leaves the others -/
theorem get_set_register (regs : RegisterFile) (t u : Tracked) (value : Option UInt32) :
    (regs.set t value).get u = if u.register = t.register then value else regs.get u := by
  rw [RegisterFile.get_set]
  exact if_congr ⟨congrArg _, register_injective⟩ rfl rfl

theorem agree_lui {rt : Register} {upper : UInt16} (h : Agree regs known m)
    (hs : (Instruction.lui rt upper).Supported) :
    Agree (regs.execute (.lui rt upper)) (determineBy known (.lui rt upper)) (m.execute (.lui rt upper)) := by
  obtain ⟨t, ht, rfl⟩ := hs
  have hexec : regs.execute (.lui t.register upper) = regs.set t (some (upper.toUInt32 <<< 16)) := by
    have htarget : Tracked.among? Tracked.luiTargets t.register = some t := among?_register ht
    simp only [RegisterFile.execute, RegisterFile.executeLui, htarget]
  rw [hexec, toUInt32_shiftLeft]
  refine agree_load (fun u hu _ => h u hu) (fun u hu => ?_) (fun _ u hu => ?_)
  · rw [get_set_register, if_neg hu]
  · rw [get_set_register, if_pos hu]

/-- a source of `addiu` counts as the register that it is -/
theorem addiuBase?_register {t : Tracked} (ht : t ∈ Tracked.addiuSources) (regs : RegisterFile) :
    regs.addiuBase? t.register = regs.get t := by
  have hzero : t.register ≠ Register.zero := by cases t <;> decide
  rw [RegisterFile.addiuBase?, if_neg hzero, among?_register ht]
  rfl

theorem agree_addiu {rt rs : Register} {imm : Int32} (h : Agree regs known m)
    (hs : (Instruction.addiu rt rs imm).Supported) :
    Agree (regs.execute (.addiu rt rs imm)) (determineBy known (.addiu rt rs imm)) (m.execute (.addiu rt rs imm)) := by
  obtain ⟨⟨t, ht, rfl⟩, hsource⟩ := hs
  have htarget : Tracked.among? Tracked.addiuTargets t.register = some t := among?_register ht
  -- a determined source has the machine's contents as its base
  have hbase : rs = Register.zero ∨ HoldsDetermined known rs → regs.addiuBase? rs = some (m.contents rs) := by
    rintro (rfl | hdet)
    · rw [m.zero]
      rfl
    · rcases hsource with rfl | ⟨s, hs, rfl⟩
      · rw [m.zero]
        rfl
      · rw [addiuBase?_register hs, h s (holdsDetermined_register.1 hdet)]
  refine agree_load (fun u hu _ => h u hu) (fun u hu => ?_) (fun hdet u hu => ?_)
  · simp only [RegisterFile.execute, RegisterFile.executeAddiu, htarget]
    cases regs.addiuBase? rs with
    | none => rfl
    | some base => exact (get_set_register regs t u _).trans (if_neg hu)
  · simp only [RegisterFile.execute, RegisterFile.executeAddiu, htarget, hbase hdet, ofInt_toInt]
    exact (get_set_register regs t u _).trans (if_pos hu)

/-- a copy looks at its source only, so agreement on the target is not asked for -/
theorem agree_daddu {rd rs rt : Register}
    (h : ∀ t ∈ known, t.register = rs ∨ t.register ≠ rd → regs.get t = some (m.contents t.register))
    (hs : (Instruction.daddu rd rs rt).Supported) :
    Agree (regs.execute (.daddu rd rs rt)) (determineBy known (.daddu rd rs rt)) (m.execute (.daddu rd rs rt)) := by
  obtain ⟨⟨t, ht, rfl⟩, ⟨s, hs, rfl⟩, rfl⟩ := hs
  have htarget : Tracked.among? Tracked.dadduTargets t.register = some t := among?_register ht
  have hsource : Tracked.among? Tracked.dadduSources s.register = some s := among?_register hs
  have hexec : regs.execute (.daddu t.register s.register Register.zero) =
      if s = .v0 ∧ regs.get s = none then regs else regs.set t (regs.get s) := by
    simp only [RegisterFile.execute, RegisterFile.executeDaddu, htarget, hsource, if_true]
  rw [hexec]
  refine agree_load (fun u hu hne => h u hu (Or.inr hne)) (fun u hu => ?_) (fun hdet u hu => ?_)
  · split_ifs
    · rfl
    · rw [get_set_register, if_neg hu]
  · have hget : regs.get s = some (m.contents s.register) :=
      h s (holdsDetermined_register.1 hdet.2) (Or.inl rfl)
    rw [if_neg (by simp [hget]), get_set_register, if_pos hu, hget, m.zero, UInt32.add_zero]

/-- a load of a register that is not tracked -/
theorem agree_untracked {i : Instruction} (h : Agree regs known m) (hi : ¬ i.LoadsTracked) :
    Agree (regs.execute i) (determineBy known i) (m.execute i) := by
  have hload : ∀ (r : Register) (value : UInt32) (determined : Prop) [Decidable determined],
      (∀ t : Tracked, t.register ≠ r) → Agree regs (determine known r determined) (m.write r value) :=
    fun r value determined _ hr =>
      agree_load (fun t ht _ => h t ht) (fun _ _ => rfl) (fun _ t ht => absurd ht (hr t))
  rw [execute_untracked regs hi]
  cases i with
  | lui rt upper => exact hload _ _ _ fun t ht => hi ⟨t, congrArg some ht.symm⟩
  | addiu rt rs imm => exact hload _ _ _ fun t ht => hi ⟨t, congrArg some ht.symm⟩
  | daddu rd rs rt => exact hload _ _ _ fun t ht => hi ⟨t, congrArg some ht.symm⟩
  | syscall => exact h

/-- one instruction, supported if it loads a tracked register -/
theorem agree_execute {i : Instruction} (h : Agree regs known m) (hi : i.LoadsTracked → i.Supported) :
    Agree (regs.execute i) (determineBy known i) (m.execute i) := by
  by_cases hload : i.LoadsTracked
  · cases i with
    | lui rt upper => exact agree_lui h (hi hload)
    | addiu rt rs imm => exact agree_addiu h (hi hload)
    | daddu rd rs rt => exact agree_daddu (fun t ht _ => h t ht) (hi hload)
    | syscall => exact h
  · exact agree_untracked h hload

end Step

/-! ## Agreement along a run -/

/-- the instructions on the first lines are supported as far as they load tracked registers -/
def SupportedBefore (ls : List Line) (n : Nat) : Prop :=
  ∀ i < n, ∀ instruction, instructionAt? ls i = some instruction → instruction.LoadsTracked → instruction.Supported

instance (ls : List Line) (n : Nat) : Decidable (SupportedBefore ls n) :=
  inferInstanceAs (Decidable (∀ i < n, ∀ instruction ∈ instructionAt? ls i, _ → _))

/-- the invariant on reaching line `n`: the stack pointer may be ahead if line `n` is the one that moves it -/
def AgreeBefore (ls : List Line) (n : Nat) (regs : RegisterFile) (known : Finset Tracked) (m : Machine) : Prop :=
  ∀ t ∈ known, (t = .sp ∧ instructionAt? ls n = some RegisterFile.stackMove) ∨
    regs.get t = some (m.contents t.register)

section Run

variable {ls : List Line} {n : Nat} {regs : RegisterFile} {known : Finset Tracked} {m : Machine}

/-- the instruction on line `n` restores full agreement -/
theorem AgreeBefore.instruction (h : AgreeBefore ls n regs known m) (hs : SupportedBefore ls (n + 1)) :
    Agree ((instructionAt? ls n).elim regs regs.execute) ((instructionAt? ls n).elim known (determineBy known))
      ((instructionAt? ls n).elim m m.execute) := by
  cases hn : instructionAt? ls n with
  | none =>
    intro t ht
    rcases h t ht with ⟨-, hmove⟩ | hget
    · rw [hn] at hmove
      cases hmove
    · exact hget
  | some i =>
    by_cases hmove : i = RegisterFile.stackMove
    · subst hmove
      have hsupported : RegisterFile.stackMove.Supported := by decide
      refine agree_daddu (fun t ht hreg => ?_) hsupported
      rcases h t ht with ⟨rfl, -⟩ | hget
      · exact absurd hreg (by decide)
      · exact hget
    · refine agree_execute (fun t ht => ?_) (hs n (Nat.lt_succ_self n) i hn)
      rcases h t ht with ⟨-, hmove'⟩ | hget
      · rw [hn] at hmove'
        exact absurd (Option.some.inj hmove') hmove
      · exact hget

/-- line `n`, with its call -/
theorem AgreeBefore.line (h : AgreeBefore ls n regs known m) (hs : SupportedBefore ls (n + 1)) :
    Agree (onLine ls n regs) (determineOnLine known ls n) (m.executeLine ls n) := by
  have hi := h.instruction hs
  simp only [onLine, determineOnLine, Machine.executeLine]
  split_ifs with hcall
  · refine agree_load (fun t ht _ => hi t ht) (fun t ht => ?_) (fun hdet t ht => ?_)
    · rw [get_set_register, if_neg ht]
    · rw [get_set_register, if_pos ht, hi .a1 hdet]
  · exact hi

/-- adopting the stack pointer touches nothing but `sp`, and only before a line that moves it -/
theorem Agree.next (h : Agree regs known m) : AgreeBefore ls (n + 1) (afterLine ls n regs) known m := by
  intro t ht
  unfold afterLine
  split_ifs with hadopt
  · by_cases hsp : t = .sp
    · exact Or.inl ⟨hsp, hadopt.2⟩
    · refine Or.inr ?_
      rw [RegisterFile.get_set, if_neg hsp]
      exact h t ht
  · exact Or.inr (h t ht)

/-- the invariant holds on reaching every line -/
theorem agreeBefore_reaching (m : Machine) (hs : SupportedBefore ls n) :
    AgreeBefore ls n (reaching ls n) (determinedAfter ls n) (m.after ls n) := by
  induction n with
  | zero => intro t ht; cases ht
  | succ n ih => exact ((ih fun i hi => hs i (by omega)).line hs).next

theorem agree_registersAt (m : Machine) (hs : SupportedBefore ls (n + 1)) :
    Agree (registersAt ls n) (determinedAfter ls (n + 1)) (m.after ls (n + 1)) :=
  (agreeBefore_reaching m fun i hi => hs i (by omega)).line hs

end Run

/-! ## Registers that are not determined -/

/-- two machines whose undetermined registers differ by one -/
def Apart (known : Finset Tracked) (low high : Machine) : Prop :=
  ∀ t : Tracked, high.contents t.register = low.contents t.register + if t ∈ known then 0 else 1

section Apart

variable {known : Finset Tracked} {low high : Machine}

theorem apart_load {r : Register} {value raised : UInt32} {determined : Prop} [Decidable determined]
    (h : Apart known low high) (hvalue : ∀ t : Tracked, t.register = r → raised = value + if determined then 0 else 1) :
    Apart (determine known r determined) (low.write r value) (high.write r raised) := by
  intro t
  rw [Machine.contents_write, Machine.contents_write]
  by_cases hr : t.register = r
  · simp only [mem_determine, hr, if_true]
    exact hvalue t hr
  · simp only [mem_determine, hr, if_false]
    exact h t

theorem apart_execute {i : Instruction} (h : Apart known low high) (hi : i.LoadsTracked → i.Supported) :
    Apart (determineBy known i) (low.execute i) (high.execute i) := by
  cases i with
  | lui rt upper => exact apart_load h fun _ _ => by simp
  | addiu rt rs imm =>
    refine apart_load h fun t ht => ?_
    rcases (hi ⟨t, congrArg some ht.symm⟩).2 with rfl | ⟨s, -, rfl⟩
    · simp [low.zero, high.zero]
    · have hzero : s.register ≠ Register.zero := by cases s <;> decide
      simp only [h s, hzero, false_or, holdsDetermined_register]
      rw [UInt32.add_assoc, UInt32.add_assoc, UInt32.add_comm (UInt32.ofInt _)]
  | daddu rd rs rt =>
    refine apart_load h fun t ht => ?_
    obtain ⟨-, ⟨s, -, rfl⟩, rfl⟩ := hi ⟨t, congrArg some ht.symm⟩
    simp only [h s, low.zero, high.zero, true_and, holdsDetermined_register, UInt32.add_zero]
  | syscall => exact h

theorem apart_line {ls : List Line} {n : Nat} (h : Apart known low high) (hs : SupportedBefore ls (n + 1)) :
    Apart (determineOnLine known ls n) (low.executeLine ls n) (high.executeLine ls n) := by
  have hi : Apart ((instructionAt? ls n).elim known (determineBy known)) ((instructionAt? ls n).elim low low.execute)
      ((instructionAt? ls n).elim high high.execute) := by
    cases hn : instructionAt? ls n with
    | none => exact h
    | some i => exact apart_execute h (hs n (Nat.lt_succ_self n) i hn)
  simp only [determineOnLine, Machine.executeLine]
  split_ifs with hcall
  · exact apart_load hi fun _ _ => hi .a1
  · exact hi

/-- two machines that differ by one in every register still do so in every undetermined one -/
theorem apart_after {ls : List Line} {n : Nat} (hs : SupportedBefore ls n) :
    Apart (determinedAfter ls n) ((Machine.filled 0).after ls n) ((Machine.filled 1).after ls n) := by
  induction n with
  | zero =>
    intro t
    simp [Machine.after, determinedAfter, Machine.contents_filled]
  | succ n ih => exact apart_line (ih fun i hi => hs i (by omega)) hs

end Apart

/-- **Exactness.** Let a call be found, and let the instructions up to it be supported as far as they load tracked
registers. A register that is determined there is known, with the contents of the machine, from whatever contents the
machine started. A register that is not determined has no value that would be right for every machine. -/
theorem registers_exact (text : List Char) (target : CallNumber) (lookback : Nat) (call : SetupCall)
    (hfound : SetupCall.find? text target lookback = some call)
    (hsupported : SupportedBefore (lines text) (call.site + 1)) (t : Tracked) :
    (t ∈ determinedAfter (lines text) (call.site + 1) → ∀ m : Machine,
      call.registers.get t = some ((m.after (lines text) (call.site + 1)).contents t.register)) ∧
    (t ∉ determinedAfter (lines text) (call.site + 1) → ∀ value, ∃ m : Machine,
      (m.after (lines text) (call.site + 1)).contents t.register ≠ value) := by
  constructor
  · intro ht m
    rw [find?_eq] at hfound
    obtain ⟨i, -, rfl⟩ := Option.map_eq_some_iff.1 hfound
    exact agree_registersAt m hsupported t ht
  · intro ht value
    have hapart := apart_after hsupported t
    rw [if_neg ht] at hapart
    by_cases hlow : ((Machine.filled 0).after (lines text) (call.site + 1)).contents t.register = value
    · refine ⟨Machine.filled 1, fun hhigh => ?_⟩
      rw [hlow, hhigh] at hapart
      exact absurd hapart.symm (by simp)
    · exact ⟨Machine.filled 0, hlow⟩

/-- at the heap setup of `bootLines` the stack pointer is exact, and of `a0` nothing can be said -/
theorem registers_exact_boot : ∃ call, SetupCall.find? (unlines bootLines) CallNumber.setupHeap 5 = some call ∧
    call.site = 5 ∧ SupportedBefore (lines (unlines bootLines)) 6 ∧ call.registers.get .sp = some 0x02000000 ∧
    (∀ m : Machine, call.registers.get .sp =
      some ((m.after (lines (unlines bootLines)) 6).contents Tracked.sp.register)) ∧
    ∀ value, ∃ m : Machine, (m.after (lines (unlines bootLines)) 6).contents Tracked.a0.register ≠ value := by
  have hview : (SetupCall.find? (unlines bootLines) CallNumber.setupHeap 5).map
      (fun call => (call.site, call.registers.get .sp)) = some (5, some 0x02000000) := by decide +kernel
  obtain ⟨call, hcall, hcallview⟩ := Option.map_eq_some_iff.1 hview
  obtain ⟨hsite, hsp⟩ := Prod.mk.inj hcallview
  have hsupported : SupportedBefore (lines (unlines bootLines)) 6 := by decide +kernel
  have hexact := registers_exact (unlines bootLines) CallNumber.setupHeap 5 call hcall (by rwa [hsite])
  rw [hsite] at hexact
  exact ⟨call, hcall, hsite, hsupported, hsp, (hexact .sp).1 (by decide +kernel), (hexact .a0).2 (by decide +kernel)⟩

end MemorySetup
