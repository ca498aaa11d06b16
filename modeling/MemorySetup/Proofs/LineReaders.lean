/-
The three readings of a line agree with each other.

A line is read for its instruction, for the call that it prepares and for a mention of a kernel call, the first two off
its tokens and the last off its text. Still
- a line that prepares a call has the instruction that does it (`instruction_of_callNumber?`), and that instruction
  touches no register that is followed (`execute_addiu_v1`);
- a line with the instruction `syscall` mentions a kernel call (`mentionsSyscall_of_syscall`): the word is a lexeme, and
  a lexeme stands in its line as it is.
All three are the same for the trimmed line (`ofLine_trim`). `readers_agree` puts them together, and says for whole
listings that the run over trimmed lines and the search for blocks in the lines as they are see the same calls, and the
same loads of an upper half of `a0`.
-/
import MemorySetup.Proofs.Machine
import MemorySetup.Proofs.Scanning

namespace MemorySetup

open Text

/-! ## Preparing a call -/

/-- a line that prepares a call has the instruction that does it -/
theorem instruction_of_callNumber? {line : Line} {number : CallNumber} (h : callNumber? line = some number) :
    Instruction.ofLine? line = some (.addiu Register.v1 Register.zero (Int32.ofNat number.toNat)) := by
  obtain ⟨⟨mnemonic, ops⟩, hstatement, hnumber⟩ := Option.bind_eq_some_iff.1 h
  rw [Instruction.ofLine?, hstatement, Option.bind_some]
  cases mnemonic with
  | addiu =>
    obtain ⟨value, digits, hops, -, -, hlo, hhi, rfl⟩ := ofOperands?_eq_some_iff.1 hnumber
    lift value to Nat using hlo
    have hfits : value < UInt8.size := Int.ofNat_lt.1 hhi
    refine addiu?_eq_some_iff.2 ⟨_, _, value, digits, hops, ?_⟩
    rw [Int.toNat_natCast, UInt8.toNat_ofNat_of_lt' hfits]
    rfl
  | _ => cases hnumber

/-- the number of a call is in no register that is followed -/
theorem execute_addiu_v1 (regs : RegisterFile) (rs : Register) (imm : Int32) :
    regs.execute (.addiu Register.v1 rs imm) = regs := by
  have huntracked : ∀ t : Tracked, t.register ≠ Register.v1 := by
    intro t
    cases t <;> decide
  refine execute_untracked regs ?_
  rintro ⟨t, ht⟩
  exact huntracked t (Option.some.inj ht).symm

/-! ## Making a call -/

/-- a lexeme that is the mnemonic of a kernel call mentions it -/
theorem mentionsSyscall_of_spells {line : Line} {l : Lexeme} (hl : l ∈ lexemes line) (h : Spells l .syscall) :
    mentionsSyscall line = true := by
  have hword : lowercase l = syscallWord := by
    simpa [Spells, Mnemonic.spellings, syscallWord] using h
  rw [mentionsSyscall, occursIn_iff, ← hword]
  exact (infix_of_mem_lexemes hl).map Char.toLower

theorem mentionsSyscall_of_syscall {line : Line} (h : Instruction.ofLine? line = some .syscall) :
    mentionsSyscall line = true := by
  obtain ⟨m, operands, ⟨before, word, hls, hword, -⟩, hdecodes⟩ :=
    (bind_statement_eq_some_iff (fun _ _ _ => ofStatement?_map_eq_some_iff) line .syscall).1 h
  cases hdecodes with
  | syscall => exact mentionsSyscall_of_spells (by simp [hls]) hword

/-! ## The readings of a line, and of a listing -/

/-- **The readings of a line agree.** A line that prepares a call has the instruction `addiu v1, zero` with the number
of that call, from 0 to 255, and to follow this instruction changes no register. A line with the instruction `syscall`
mentions a kernel call. Instruction, prepared call and mention are those of the trimmed line.
So the run over the trimmed lines of a listing and the search for blocks in its lines see the same calls, and the same
lines that load the upper half of `a0`. -/
theorem readers_agree (line : Line) :
    (∀ number, callNumber? line = some number → ∃ imm : Int32,
      Instruction.ofLine? line = some (.addiu Register.v1 Register.zero imm) ∧ imm.toInt = number.toNat ∧
      0 ≤ imm.toInt ∧ imm.toInt ≤ 255 ∧
      ∀ regs : RegisterFile, regs.execute (.addiu Register.v1 Register.zero imm) = regs) ∧
    (Instruction.ofLine? line = some .syscall → mentionsSyscall line = true) ∧
    (Instruction.ofLine? (trim line) = Instruction.ofLine? line ∧ callNumber? (trim line) = callNumber? line ∧
      mentionsSyscall (trim line) = mentionsSyscall line) ∧
    ∀ ls : List Line,
      (snapshots (trimmedReadings ls)).map Snapshot.call? = calls (ls.map Reading.ofLine) ∧
      (trimmedReadings ls).map CodeBlock.startsBlock = (ls.map Reading.ofLine).map CodeBlock.startsBlock := by
  refine ⟨fun number hnumber => ?_, mentionsSyscall_of_syscall, ?_, fun ls => ?_⟩
  · have hlt := number.toNat_lt
    have hvalue : (Int32.ofNat number.toNat).toInt = number.toNat := Int32.toInt_ofNat_of_lt (by omega)
    exact ⟨Int32.ofNat number.toNat, instruction_of_callNumber? hnumber, hvalue, by omega, by omega,
      fun regs => execute_addiu_v1 regs _ _⟩
  · have htrim := ofLine_trim line
    exact ⟨congrArg Reading.instruction? htrim, congrArg Reading.callNumber? htrim,
      congrArg Reading.mentionsSyscall htrim⟩
  · rw [trimmedReadings_eq]
    exact ⟨map_call?_snapshotsFrom none RegisterFile.unknown _, rfl⟩

/-- a line that prepares the heap setup, between white space that is no blank -/
def paddedSetupLine : Line :=
  ['\u00A0'] ++ prepareHeapLine ++ ['\u2003']

/-- a labelled line that makes a call, in mixed letter case -/
def labelledCallLine : Line :=
  ['b', 'o', 'o', 't', ':', 'S', 'y', 's', 'C', 'a', 'l', 'l', ',', 'v', '1']

/-- these two lines are read alike in all ways -/
theorem readers_agree_padded :
    callNumber? paddedSetupLine = some CallNumber.setupHeap ∧ trim paddedSetupLine ≠ paddedSetupLine ∧
      callNumber? (trim paddedSetupLine) = some CallNumber.setupHeap ∧
      (∃ imm : Int32, Instruction.ofLine? paddedSetupLine = some (.addiu Register.v1 Register.zero imm) ∧
        imm.toInt = 0x3D) ∧
      Instruction.ofLine? labelledCallLine = some .syscall ∧ mentionsSyscall labelledCallLine = true := by
  have hnumber : callNumber? paddedSetupLine = some CallNumber.setupHeap := by decide +kernel
  have hcall : Instruction.ofLine? labelledCallLine = some .syscall := by decide +kernel
  obtain ⟨hprepared, -, ⟨-, htrim, -⟩, -⟩ := readers_agree paddedSetupLine
  obtain ⟨imm, hinstruction, hvalue, -⟩ := hprepared CallNumber.setupHeap hnumber
  exact ⟨hnumber, by decide +kernel, htrim.trans hnumber, ⟨imm, hinstruction, hvalue⟩, hcall,
    (readers_agree labelledCallLine).2.1 hcall⟩

end MemorySetup
