/-
Instructions that are written out are read back, however they are written.

A line renders an instruction (`Instruction.Renders`) if it has, in this order and in any letter case,
- words that are no mnemonics, up to a blank (`Lead`);
- the mnemonic and the operands, apart by blanks at least after the mnemonic, with commas between operands and any
  blanks around these (`OperandList`). A register has its names, bare or after a dollar sign, and its number after a
  dollar sign; a number is a hexadecimal literal without leading zeros, with or without a minus sign
  (`Operand.Spelling`);
- blanks and a comment that does not mention a kernel call.

`Instruction.Renders.ofLine_eq`: such a line says what the instruction says (`Instruction.reading`) and no more: its
tokens are those of the operands (`tokens_operandList`), and only a rendered `syscall` mentions a kernel call.

`outline_rendered`: so what is found in a rendered program is found in the list of its instructions.
-/
import MemorySetup.Proofs.Presentation

namespace MemorySetup

open Text

/-! ## Instructions as they are written -/

/-- what an operand stands for -/
inductive Operand where
  | register (r : Register)
  | number (value : Int)
  deriving DecidableEq, Repr

namespace Instruction

def mnemonic : Instruction → Mnemonic
  | lui _ _ => .lui
  | addiu _ _ _ => .addiu
  | daddu _ _ _ => .daddu
  | syscall => .syscall

def operands : Instruction → List Operand
  | lui rt upper => [.register rt, .number upper.toNat]
  | addiu rt rs imm => [.register rt, .register rs, .number imm.toInt]
  | daddu rd rs rt => [.register rd, .register rs, .register rt]
  | syscall => []

end Instruction

/-- the ways to write an operand, in lower case -/
inductive Operand.Spelling : Operand → List Char → Prop
  | name {r : Register} {name : List Char} (h : (name, r) ∈ Register.abiNames) : Spelling (.register r) name
  | dollarName {r : Register} {name : List Char} (h : (name, r) ∈ Register.abiNames) :
      Spelling (.register r) ('$' :: name)
  | dollarNumber (r : Register) : Spelling (.register r) ('$' :: Nat.toDigits 10 r.val)
  | literal (n : Nat) : Spelling (.number n) ('0' :: 'x' :: Nat.toDigits 16 n)
  | negated (n : Nat) : Spelling (.number (-n)) ('-' :: '0' :: 'x' :: Nat.toDigits 16 n)

/-- operands with a comma between any two, and blanks around the commas -/
inductive OperandList : List Operand → List Char → Prop
  | nil : OperandList [] []
  | one {o : Operand} {s : List Char} (h : o.Spelling s) : OperandList [o] s
  | more {o : Operand} {os : List Operand} {s before after text : List Char} (h : o.Spelling s) (hb : Blank before)
      (ha : Blank after) (hos : os ≠ []) (hrest : OperandList os text) :
      OperandList (o :: os) (s ++ (before ++ ',' :: (after ++ text)))

/-- text before a mnemonic: words that are no mnemonics and do not mention a kernel call, up to a blank -/
structure Lead (text : List Char) : Prop where
  comment : ∀ c ∈ text, startsComment c = false
  mention : mentionsSyscall text = false
  word : ∀ l ∈ lexemes text, Mnemonic.ofWord? l = none
  stop : ∀ c ∈ text.getLast?, isBlank c = true

/-- the lines that write an instruction -/
inductive Instruction.Renders (i : Instruction) : Line → Prop
  | intro {lead word gap text after comment line : List Char} (hlead : Lead lead)
      (hword : (word, i.mnemonic) ∈ Mnemonic.spellings) (hgap : Blank gap) (hapart : i.operands ≠ [] → gap ≠ [])
      (htext : OperandList i.operands text) (hafter : Blank after) (hcomment : QuietComment comment)
      (hcase : lowercase line = lowercase (lead ++ (word ++ (gap ++ text)) ++ after ++ comment))
      (hline : '\n' ∉ line) : Renders i line

/-! ## What an instruction says by itself -/

namespace Instruction

/-- the call that an instruction prepares: `addiu v1, zero` with a number of a call -/
def callNumber? : Instruction → Option CallNumber
  | addiu rt rs imm =>
    if rt = Register.v1 ∧ rs = Register.zero ∧ 0 ≤ imm.toInt ∧ imm.toInt ≤ 255 then
      some (UInt8.ofNat imm.toInt.toNat)
    else none
  | _ => none

def reading (i : Instruction) : Reading :=
  ⟨some i, i = syscall, i.callNumber?⟩

end Instruction

/-! ## Tokens of what is written -/

namespace Operand

/-- the token of an operand; a number has as many digits as it needs -/
def token : Operand → Token
  | register r => .register r
  | number value => .immediate value (Nat.toDigits 16 value.natAbs).length

/-- a number is small enough to be a literal -/
def Readable : Operand → Prop
  | register _ => True
  | number value => value.natAbs < Literal.bound

theorem Spelling.tokens {o : Operand} {s : List Char} (h : o.Spelling s) (ho : o.Readable) :
    tokens s = [o.token] := by
  have hmark : ∀ n, ∀ c ∈ 'x' :: Nat.toDigits 16 n, isWordChar c = true := by
    intro n c hc
    rcases List.mem_cons.1 hc with rfl | hc
    · decide
    · exact isWordChar_of_mem_toDigits hc
  cases h with
  | name h =>
    have hall : ∀ entry ∈ Register.abiNames, MemorySetup.tokens entry.1 = [.register entry.2] := by decide +kernel
    exact hall _ h
  | dollarName h =>
    have hall : ∀ entry ∈ Register.abiNames, MemorySetup.tokens ('$' :: entry.1) = [.register entry.2] := by
      decide +kernel
    exact hall _ h
  | dollarNumber r =>
    have hall : ∀ r : Register, MemorySetup.tokens ('$' :: Nat.toDigits 10 r.val) = [.register r] := by decide +kernel
    exact hall r
  | literal n =>
    have hn : n < Literal.bound := by simpa [Readable] using ho
    rw [tokens_lexeme (by decide) (hmark n), Token.ofLexeme_word _ (by decide), Token.ofWord, literal_toDigits hn]
    simp [token]
  | negated n =>
    have hn : n < Literal.bound := by simpa [Readable] using ho
    have hword : ∀ c ∈ '0' :: 'x' :: Nat.toDigits 16 n, isWordChar c = true :=
      List.forall_mem_cons.2 ⟨by decide, hmark n⟩
    have htoken : Token.ofLexeme ('-' :: '0' :: 'x' :: Nat.toDigits 16 n) =
        Token.ofNegated ('0' :: 'x' :: Nat.toDigits 16 n) := rfl
    rw [tokens_lexeme (by decide) hword, htoken, Token.ofNegated, literal_toDigits hn]
    simp [token]

/-- the operands of an instruction are small enough -/
theorem readable_operands (i : Instruction) : ∀ o ∈ i.operands, o.Readable := by
  cases i with
  | lui rt upper =>
    have hlt := upper.toNat_lt
    have hbound : (upper.toNat : Int).natAbs < Literal.bound := by
      unfold Literal.bound
      omega
    simpa [Instruction.operands, Readable] using hbound
  | addiu rt rs imm =>
    have hlo := imm.le_toInt
    have hhi := imm.toInt_lt
    have hbound : imm.toInt.natAbs < Literal.bound := by
      unfold Literal.bound
      omega
    simpa [Instruction.operands, Readable] using hbound
  | daddu rd rs rt => simp [Instruction.operands, Readable]
  | syscall => simp [Instruction.operands]

end Operand

/-- a character that starts no comment, and not the one letter that only `syscall` has -/
def isPlain (c : Char) : Bool :=
  !startsComment c && c.toLower != 'y'

theorem Blank.isPlain {s : List Char} (h : Blank s) : ∀ c ∈ s, isPlain c = true := by
  intro c hc
  have hblank := h c hc
  simp only [isBlank, Bool.or_eq_true, beq_iff_eq] at hblank
  rcases hblank with (rfl | rfl) | rfl <;> decide

theorem isPlain_of_mem_toDigits {b n : Nat} (hb : 1 < b) (hb' : b ≤ 16) : ∀ c ∈ Nat.toDigits b n, isPlain c = true := by
  intro c hc
  obtain ⟨d, hd, rfl⟩ := mem_toDigits hb n c hc
  have hall : ∀ d < 16, isPlain d.digitChar = true := by decide
  exact hall d (by omega)

theorem Operand.Spelling.isPlain {o : Operand} {s : List Char} (h : o.Spelling s) : ∀ c ∈ s, isPlain c = true := by
  have hname : ∀ entry ∈ Register.abiNames, entry.1.all MemorySetup.isPlain = true := by decide
  cases h with
  | name h => exact List.all_eq_true.1 (hname _ h)
  | dollarName h => exact List.forall_mem_cons.2 ⟨by decide, List.all_eq_true.1 (hname _ h)⟩
  | dollarNumber r => exact List.forall_mem_cons.2 ⟨by decide, isPlain_of_mem_toDigits (by decide) (by decide)⟩
  | literal n =>
    exact List.forall_mem_cons.2 ⟨by decide, List.forall_mem_cons.2 ⟨by decide,
      isPlain_of_mem_toDigits (by decide) (by decide)⟩⟩
  | negated n =>
    exact List.forall_mem_cons.2 ⟨by decide, List.forall_mem_cons.2 ⟨by decide, List.forall_mem_cons.2 ⟨by decide,
      isPlain_of_mem_toDigits (by decide) (by decide)⟩⟩⟩

theorem OperandList.isPlain {os : List Operand} {text : List Char} (h : OperandList os text) :
    ∀ c ∈ text, isPlain c = true := by
  induction h with
  | nil => simp
  | one h => exact h.isPlain
  | more h hb ha _ _ ih =>
    refine List.forall_mem_append.2 ⟨h.isPlain, List.forall_mem_append.2 ⟨hb.isPlain, ?_⟩⟩
    exact List.forall_mem_cons.2 ⟨by decide, List.forall_mem_append.2 ⟨ha.isPlain, ih⟩⟩

theorem startsComment_of_isPlain {s : List Char} (h : ∀ c ∈ s, isPlain c = true) :
    ∀ c ∈ s, startsComment c = false := by
  intro c hc
  have hplain := h c hc
  simp only [isPlain, Bool.and_eq_true, Bool.not_eq_true'] at hplain
  exact hplain.1

/-- the tokens of operands are those of each, with commas between them -/
theorem tokens_operandList {os : List Operand} {text : List Char} (h : OperandList os text)
    (hos : ∀ o ∈ os, o.Readable) : tokens text = (os.map Operand.token).intersperse .comma := by
  induction h with
  | nil => rfl
  | one h => exact h.tokens (hos _ List.mem_cons_self)
  | @more o os s before after text h hb ha hne hrest ih =>
    obtain ⟨next, rest, rfl⟩ := List.exists_cons_of_ne_nil hne
    have hcomma : ∀ c ∈ (',' :: (after ++ text)).head?, isWordChar c = false := by
      intro c hc
      obtain rfl : ',' = c := by simpa using hc
      decide
    rw [tokens_append_blank (startsComment_of_isPlain h.isPlain) hb fun _ => hcomma,
      h.tokens (hos _ List.mem_cons_self), tokens_comma_append, tokens_blank_append ha,
      ih fun o ho => hos o (List.mem_cons_of_mem _ ho)]
    rfl

/-! ## What a rendered line says -/

/-- the words before a mnemonic are skipped -/
theorem Lead.ofTokens? {lead : List Char} (h : Lead lead) (ts : List Token) :
    Statement.ofTokens? (tokens lead ++ ts) = Statement.ofTokens? ts := by
  refine ofTokens?_append_of_ne (fun t ht m hm => ?_) ts
  obtain ⟨l, hl, rfl⟩ := List.mem_map.1 ht
  have hnone := h.word l hl
  rw [mnemonic_of_ofLexeme hm] at hnone
  cases hnone

namespace Instruction

/-- the operands of an instruction are its operands again -/
theorem ofStatement?_operands (i : Instruction) :
    ofStatement? ⟨i.mnemonic, (i.operands.map Operand.token).intersperse .comma⟩ = some i := by
  cases i with
  | lui rt upper =>
    have hdigits : (Nat.toDigits 16 upper.toNat).length ≤ 4 :=
      (Nat.length_toDigits_le_iff (by decide) (by decide)).2 upper.toNat_lt
    simp [ofStatement?, mnemonic, operands, Operand.token, lui?, hdigits]
  | addiu rt rs imm => simp [ofStatement?, mnemonic, operands, Operand.token, addiu?]
  | daddu rd rs rt => rfl
  | syscall => rfl

/-- the number of a call is written with one or two digits -/
theorem callNumber_operands (i : Instruction) :
    CallNumber.ofStatement? ⟨i.mnemonic, (i.operands.map Operand.token).intersperse .comma⟩ = i.callNumber? := by
  cases i with
  | addiu rt rs imm =>
    have hpos : 1 ≤ (Nat.toDigits 16 imm.toInt.natAbs).length := List.length_pos_iff.2 Nat.toDigits_ne_nil
    have hdigits : (Nat.toDigits 16 imm.toInt.natAbs).length ≤ 2 ↔ imm.toInt.natAbs < 256 :=
      Nat.length_toDigits_le_iff (by decide) (by decide)
    change CallNumber.ofOperands? [.register rt, .comma, .register rs, .comma, .immediate imm.toInt _] = _
    refine if_congr (and_congr_right' (and_congr_right' ?_)) rfl rfl
    rw [hdigits]
    omega
  | _ => rfl

theorem callNumber?_eq_some_iff {i : Instruction} {number : CallNumber} :
    i.callNumber? = some number ↔ i = .addiu Register.v1 Register.zero (Int32.ofNat number.toNat) := by
  have hlt := number.toNat_lt
  have hvalue : (Int32.ofNat number.toNat).toInt = number.toNat := Int32.toInt_ofNat_of_lt (by omega)
  constructor
  · intro h
    cases i with
    | addiu rt rs imm =>
      simp only [callNumber?, Option.ite_none_right_eq_some, Option.some.injEq] at h
      obtain ⟨⟨rfl, rfl, hlo, hhi⟩, hnumber⟩ := h
      have himm : imm = Int32.ofNat number.toNat := by
        rw [← Int32.toInt_inj, hvalue, ← hnumber, UInt8.toNat_ofNat_of_lt' (by unfold UInt8.size; omega)]
        omega
      rw [himm]
    | _ => cases h
  · rintro rfl
    simp only [callNumber?, hvalue]
    rw [if_pos ⟨trivial, trivial, by omega, by omega⟩, Int.toNat_natCast, UInt8.ofNat_toNat]

end Instruction

theorem mentionsSyscall_of_isPlain {s : List Char} (h : ∀ c ∈ s, isPlain c = true) : mentionsSyscall s = false := by
  have hletter : 'y' ∈ syscallWord := by decide
  refine mentionsSyscall_eq_false hletter fun c hc hy => ?_
  have hplain := h c hc
  simp [isPlain, hy] at hplain

theorem tokens_mnemonic {word : List Char} {m : Mnemonic} (h : (word, m) ∈ Mnemonic.spellings) :
    tokens word = [.instruction m] := by
  have hall : ∀ entry ∈ Mnemonic.spellings, tokens entry.1 = [.instruction entry.2] := by decide +kernel
  exact hall _ h

theorem startsComment_mnemonic {word : List Char} {m : Mnemonic} (h : (word, m) ∈ Mnemonic.spellings) :
    ∀ c ∈ word, startsComment c = false := by
  have hall : ∀ entry ∈ Mnemonic.spellings, entry.1.all (fun c => !startsComment c) = true := by decide
  simpa using hall _ h

section Written

variable {i : Instruction} {lead word gap text : List Char}

/-- a mnemonic and its operands give the tokens of a statement -/
theorem tokens_written (hword : (word, i.mnemonic) ∈ Mnemonic.spellings) (hgap : Blank gap)
    (hapart : i.operands ≠ [] → gap ≠ []) (htext : OperandList i.operands text) :
    tokens (word ++ (gap ++ text)) =
      .instruction i.mnemonic :: (i.operands.map Operand.token).intersperse .comma := by
  have hnext : gap = [] → ∀ c ∈ text.head?, isWordChar c = false := by
    intro hnone
    -- without a blank there are no operands
    have hoperands : i.operands = [] := by
      by_contra hne
      exact hapart hne hnone
    rw [hoperands] at htext
    cases htext
    simp
  rw [tokens_append_blank (startsComment_mnemonic hword) hgap hnext, tokens_mnemonic hword,
    tokens_operandList htext (Operand.readable_operands i)]
  rfl

/-- of all instructions only `syscall` is written with a mention of a kernel call -/
theorem mentionsSyscall_written (hword : (word, i.mnemonic) ∈ Mnemonic.spellings) (hgap : Blank gap)
    (htext : OperandList i.operands text) : mentionsSyscall (word ++ (gap ++ text)) = decide (i = .syscall) := by
  have hspelled : ∀ entry ∈ Mnemonic.spellings,
      if entry.2 = .syscall then entry.1 = syscallWord else entry.1.all isPlain = true := by decide
  have hentry := hspelled _ hword
  have hplain : ∀ c ∈ gap ++ text, isPlain c = true := List.forall_mem_append.2 ⟨hgap.isPlain, htext.isPlain⟩
  cases i with
  | syscall =>
    obtain rfl : word = syscallWord := hentry
    have hcut : lowercase (syscallWord ++ (gap ++ text)) = syscallWord ++ lowercase (gap ++ text) := List.map_append
    rw [decide_eq_true rfl, mentionsSyscall, occursIn_iff, hcut]
    exact (List.prefix_append _ _).isInfix
  | _ =>
    rw [decide_eq_false Instruction.noConfusion]
    exact mentionsSyscall_of_isPlain (List.forall_mem_append.2 ⟨List.all_eq_true.1 hentry, hplain⟩)

/-- the lead, the mnemonic and the operands say what the instruction says -/
theorem ofLine_written (hlead : Lead lead) (hword : (word, i.mnemonic) ∈ Mnemonic.spellings) (hgap : Blank gap)
    (hapart : i.operands ≠ [] → gap ≠ []) (htext : OperandList i.operands text) :
    Reading.ofLine (lead ++ (word ++ (gap ++ text))) = i.reading := by
  have hidle : ∀ c ∈ lead.getLast?, Idle c := fun c hc => idle_of_isBlank (hlead.stop c hc)
  have hstatement : Statement.ofTokens? (tokens (lead ++ (word ++ (gap ++ text)))) =
      some ⟨i.mnemonic, (i.operands.map Operand.token).intersperse .comma⟩ := by
    rw [tokens_append hlead.comment fun x hx y _ => (hidle x hx).glued_right y, hlead.ofTokens?,
      tokens_written hword hgap hapart htext]
    rfl
  have hmention : mentionsSyscall (lead ++ (word ++ (gap ++ text))) = decide (i = .syscall) := by
    rw [mentionsSyscall_append (Or.inl fun c hc => (hidle c hc).letter), hlead.mention, Bool.false_or,
      mentionsSyscall_written hword hgap htext]
  simp only [Reading.ofLine, Instruction.ofLine?, callNumber?, hstatement, Option.bind_some, hmention,
    Instruction.ofStatement?_operands, Instruction.callNumber_operands, Instruction.reading]

end Written

/-- **A rendered line says what its instruction says.** -/
theorem Instruction.Renders.ofLine_eq {i : Instruction} {line : Line} (h : i.Renders line) :
    Reading.ofLine line = i.reading := by
  obtain @⟨lead, word, gap, text, after, comment, _, hlead, hword, hgap, hapart, htext, hafter, hcomment, hcase, -⟩ := h
  have htextual : ∀ c ∈ lead ++ (word ++ (gap ++ text)) ++ after, startsComment c = false := by
    simp only [List.forall_mem_append]
    exact ⟨⟨hlead.comment, startsComment_mnemonic hword, startsComment_of_isPlain hgap.isPlain,
      startsComment_of_isPlain htext.isPlain⟩, startsComment_of_isPlain hafter.isPlain⟩
  have hnothing : ∀ c ∈ ([] : Line), isWhitespace c = true := by simp
  have hspace : ∀ c ∈ after, isWhitespace c = true := fun c hc => isWhitespace_of_isBlank (hafter c hc)
  calc Reading.ofLine line
    _ = Reading.ofLine (lead ++ (word ++ (gap ++ text)) ++ after ++ comment) := by
      rw [← ofLine_lowercase line, hcase, ofLine_lowercase]
    _ = Reading.ofLine (lead ++ (word ++ (gap ++ text)) ++ after) := hcomment.ofLine_append htextual
    _ = Reading.ofLine (lead ++ (word ++ (gap ++ text))) := ofLine_around hnothing hspace _
    _ = i.reading := ofLine_written hlead hword hgap hapart htext

theorem Instruction.Renders.newline_notMem {i : Instruction} {line : Line} (h : i.Renders line) : '\n' ∉ line := by
  obtain ⟨-, -, -, -, -, -, -, -, hline⟩ := h
  exact hline

/-! ## Rendered programs -/

theorem getElem?_callsAfter (prepared : Option CallNumber) (readings : List Reading) (k : Nat) :
    (callsAfter prepared readings)[k]? = readings[k]?.map fun r =>
      r.call? (if k = 0 then prepared else readings[k - 1]?.bind Reading.callNumber?) := by
  induction readings generalizing prepared k with
  | nil => rfl
  | cons r rest ih =>
    cases k with
    | zero => rfl
    | succ k =>
      rw [callsAfter, List.getElem?_cons_succ, ih, List.getElem?_cons_succ]
      cases k <;> rfl

/-- a call of a program is a `syscall` right after the `addiu` that prepares its number -/
theorem getElem?_calls_program (program : List Instruction) (k : Nat) (number : CallNumber) :
    (calls (program.map Instruction.reading))[k]? = some (some number) ↔
      1 ≤ k ∧ program[k]? = some .syscall ∧
        program[k - 1]? = some (.addiu Register.v1 Register.zero (Int32.ofNat number.toNat)) := by
  rw [calls, getElem?_callsAfter]
  cases k with
  | zero => simp [Reading.call?]
  | succ k =>
    simp only [List.getElem?_map, Option.map_map, Option.map_eq_some_iff, Option.bind_map, Nat.succ_ne_zero, if_false,
      Nat.add_sub_cancel, Option.bind_eq_some_iff, Function.comp_apply, Reading.call?, Option.ite_none_right_eq_some]
    simp only [Instruction.reading, decide_eq_true_eq, Instruction.callNumber?_eq_some_iff]
    constructor
    · rintro ⟨_, hcall, rfl, _, hprepared, rfl⟩
      exact ⟨Nat.le_add_left 1 k, hcall, hprepared⟩
    · rintro ⟨-, hcall, hprepared⟩
      exact ⟨_, hcall, rfl, _, hprepared, rfl⟩

/-- **The text is transparent.** A program is rendered, one instruction a line, in any of the ways that there are to
write instructions. Then every line has its instruction, and for every call and lookback there is found what is found
in the program itself: the same line, registers and traces, and a block of the same bounds, or no call in both. The
calls of a program are its `syscall` instructions that follow an `addiu` of a number to `v1` from zero. -/
theorem outline_rendered (program : List Instruction) (ls : List Line)
    (h : List.Forall₂ Instruction.Renders program ls) (target : CallNumber) (lookback : Nat) :
    ls.map Instruction.ofLine? = program.map some ∧
    (SetupCall.find? (unlines ls) target lookback).map SetupCall.outline =
      Outline.find? (program.map Instruction.reading) target lookback ∧
    ∀ k number, (calls (program.map Instruction.reading))[k]? = some (some number) ↔
      1 ≤ k ∧ program[k]? = some .syscall ∧
        program[k - 1]? = some (.addiu Register.v1 Register.zero (Int32.ofNat number.toNat)) := by
  have hreadings : ls.map Reading.ofLine = program.map Instruction.reading := by
    rw [← List.forall₂_eq_eq_eq, List.forall₂_map_left_iff, List.forall₂_map_right_iff]
    exact h.flip.imp fun _ _ hrender => hrender.ofLine_eq
  refine ⟨?_, ?_, getElem?_calls_program program⟩
  · have hinstructions := congrArg (List.map Reading.instruction?) hreadings
    rwa [List.map_map, List.map_map] at hinstructions
  · rw [outline_find?, ← hreadings]
    by_cases hnil : ls = []
    · -- a program without instructions is rendered as one empty line, on which there is no call
      subst hnil
      rfl
    · have hlines : List.Forall₂ (fun line i => '\n' ∉ line ∧ Instruction.Renders i line) ls program :=
        h.flip.imp fun _ _ hrender => ⟨hrender.newline_notMem, hrender⟩
      rw [lines_unlines ((List.forall₂_and_left ls program).1 hlines).1 hnil]

/-- a program that sets up the heap -/
def heapProgram : List Instruction :=
  [.lui Tracked.a0.register 0x60, .addiu Register.v1 Register.zero 0x3D, .syscall]

/-- one way to write that program -/
def heapProgramLines : List Line :=
  [['0', '1', '0', ':', ' ', 'L', 'U', 'I', ' ', '$', '4', ' ', ',', '0', 'X', '6', '0', ' ', ';', 'b', 'a', 's', 'e'],
    ['a', 'd', 'd', 'i', 'u', '\t', '$', 'V', '1', ',', 'z', 'e', 'r', 'o', ',', ' ', '0', 'x', '3', 'D'],
    [' ', 's', 'y', 's', 'c', 'a', 'l', 'l', '\r']]

/-- in that text the heap setup of the program is found, with its base -/
theorem outline_rendered_heap : List.Forall₂ Instruction.Renders heapProgram heapProgramLines ∧
    ∃ outline, (SetupCall.find? (unlines heapProgramLines) CallNumber.setupHeap 5).map SetupCall.outline =
      some outline ∧ outline.site = 2 ∧ outline.registers.get .a0 = some 0x00600000 := by
  have hnone : Blank [] := by decide
  have hspace : Blank [' '] := by decide
  have hsilent : QuietComment [] := ⟨by simp, by decide⟩
  have hlui : (Instruction.lui Tracked.a0.register 0x60).Renders heapProgramLines[0] := by
    have hlead : Lead ['0', '1', '0', ':', ' '] :=
      ⟨by simp [startsComment], by decide, by decide +kernel, by simp [isBlank]⟩
    have hword : (['l', 'u', 'i'], Mnemonic.lui) ∈ Mnemonic.spellings := by decide
    have hcomment : QuietComment [';', 'b', 'a', 's', 'e'] := ⟨by simp [startsComment], by decide⟩
    exact .intro hlead hword hspace (fun _ => List.cons_ne_nil _ _)
      (.more (.dollarNumber _) hspace hnone (List.cons_ne_nil _ _) (.one (.literal _))) hspace hcomment
      (by decide +kernel) (by decide)
  have haddiu : (Instruction.addiu Register.v1 Register.zero 0x3D).Renders heapProgramLines[1] := by
    have hlead : Lead [] := ⟨by simp, by decide, by decide, by simp⟩
    have hword : (['a', 'd', 'd', 'i', 'u'], Mnemonic.addiu) ∈ Mnemonic.spellings := by decide
    have htab : Blank ['\t'] := by decide
    have hv1 : (['v', '1'], Register.v1) ∈ Register.abiNames := by decide
    have hzero : (['z', 'e', 'r', 'o'], Register.zero) ∈ Register.abiNames := by decide
    have hnumber : (Operand.number (Int32.toInt 0x3D)).Spelling _ := .literal 0x3D
    exact .intro hlead hword htab (fun _ => List.cons_ne_nil _ _)
      (.more (.dollarName hv1) hnone hnone (List.cons_ne_nil _ _)
        (.more (.name hzero) hnone hspace (List.cons_ne_nil _ _) (.one hnumber))) hnone hsilent
      (by decide +kernel) (by decide)
  have hsyscall : Instruction.syscall.Renders heapProgramLines[2] := by
    have hlead : Lead [' '] := ⟨by simp [startsComment], by decide, by decide +kernel, by simp [isBlank]⟩
    have hword : (syscallWord, Mnemonic.syscall) ∈ Mnemonic.spellings := by decide
    have hreturn : Blank ['\r'] := by decide
    exact .intro hlead hword hnone (fun h => absurd rfl h) .nil hreturn hsilent (by decide +kernel)
      (by decide)
  have hrenders : List.Forall₂ Instruction.Renders heapProgram heapProgramLines :=
    .cons hlui (.cons haddiu (.cons hsyscall .nil))
  have hfound : (Outline.find? (heapProgram.map Instruction.reading) CallNumber.setupHeap 5).map
      (fun outline => (outline.site, outline.registers.get .a0)) = some (2, some 0x00600000) := by decide +kernel
  obtain ⟨outline, houtline, hview⟩ := Option.map_eq_some_iff.1 hfound
  simp only [Prod.mk.injEq] at hview
  have hsame := (outline_rendered heapProgram heapProgramLines hrenders CallNumber.setupHeap 5).2.1
  exact ⟨hrenders, outline, hsame.trans houtline, hview⟩

end MemorySetup
