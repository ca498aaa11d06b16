/-
Literals keep their value on the way into a register.

A literal is read as a number of any size and refused from 2^63 on, so it fits a signed 64-bit word and so does its
negation. From there it goes into narrower words: the upper half of an address into 16 bits, an amount to add into 32
bits with a sign and then without, where the sum wraps around.
- `NumberLexeme.bounds`: a number has digits, and it is bounded by their count and by 2^63;
- `ofLexeme_literal`, `ofLexeme_negated`: the mark `0x` with any digits is a number exactly below 2^63, however many
  zeros it starts with, and from there on it only stands for its text;
- `HasLiteral`: the literal that a line has where its instruction expects one, as it is written;
- `toUInt16_ofInt_toNat`, `toNat_add_narrowed`: the narrower words lose nothing, or nothing modulo 2^32.
`immediates_exact` puts this together. An `addiu` adds to zero and to the registers that it may start from. The stack
pointer is none of these, although its value may be known: `stack_pointer_not_added`.
-/
import Mathlib.Algebra.Group.Int.Defs
import MemorySetup.Proofs.Grammar
import MemorySetup.Proofs.Loads

namespace MemorySetup

open Text

/-! ## Numbers in a line -/

theorem literal_bound_eq : Literal.bound = 2 ^ 63 := by
  decide

/-- a number has a digit, and is bounded by their count and by 2^63 -/
theorem NumberLexeme.bounds {value : Int} {digits : Nat} {l : Lexeme} (h : NumberLexeme value digits l) :
    1 ≤ digits ∧ value.natAbs < 16 ^ digits ∧ value.natAbs < 2 ^ 63 := by
  rw [← literal_bound_eq]
  cases h with
  | plain h => simpa only [Int.natAbs_natCast] using h.bounds
  | negated h => simpa only [Int.natAbs_neg, Int.natAbs_natCast] using h.bounds

theorem exists_numberLexeme_of_mem {line : Line} {value : Int} {digits : Nat}
    (h : .immediate value digits ∈ tokens line) : ∃ l ∈ lexemes line, NumberLexeme value digits l := by
  obtain ⟨l, hl, htoken⟩ := List.mem_map.1 h
  exact ⟨l, hl, ofLexeme_eq_immediate_iff.1 htoken⟩

/-- below 2^63 in magnitude a number fits a signed 64-bit word, and so does its negation -/
theorem toInt_ofInt_of_natAbs_lt {value : Int} (h : value.natAbs < 2 ^ 63) :
    (Int64.ofInt value).toInt = value ∧ (-Int64.ofInt value).toInt = -value := by
  rw [Int64.neg_ofInt]
  exact ⟨Int64.toInt_ofInt_of_le (by omega) (by omega), Int64.toInt_ofInt_of_le (by omega) (by omega)⟩

/-! ## Literals of any size -/

/-- the hexadecimal digits, letters in either case -/
def hexDigits : List Char :=
  ['0', '1', '2', '3', '4', '5', '6', '7', '8', '9', 'a', 'b', 'c', 'd', 'e', 'f', 'A', 'B', 'C', 'D', 'E', 'F']

theorem exists_digitValues? {word : List Char} (hdigits : ∀ c ∈ word, c ∈ hexDigits) :
    ∃ ds, digitValues? 16 word = some ds := by
  have hdigit : ∀ c ∈ hexDigits, (digitBelow? 16 c).isSome = true := List.all_eq_true.1 (by decide)
  induction word with
  | nil => exact ⟨[], rfl⟩
  | cons c word ih =>
    obtain ⟨hc, hword⟩ := List.forall_mem_cons.1 hdigits
    obtain ⟨d, hd⟩ := Option.isSome_iff_exists.1 (hdigit c hc)
    obtain ⟨ds, hds⟩ := ih hword
    refine ⟨d :: ds, ?_⟩
    rw [digitValues?] at hds ⊢
    simp [hd, hds]

/-- digits, at least one, write a number -/
theorem exists_writes {word : List Char} (hne : word ≠ []) (hdigits : ∀ c ∈ word, c ∈ hexDigits) :
    ∃ n, Writes 16 n word := by
  obtain ⟨ds, hds⟩ := exists_digitValues? hdigits
  have hread : readNumeral? 16 word = some (ofDigits 16 ds) := by simp [readNumeral?, hne, hds]
  exact ⟨_, writes_of_readNumeral? (by decide) hread⟩

theorem lookup_eq_none_of_head {β : Type} {table : List (List Char × β)} {c : Char}
    (h : ∀ entry ∈ table, entry.1.head? ≠ some c) (rest : List Char) : table.lookup (c :: rest) = none := by
  rw [List.lookup_eq_none_iff]
  intro entry hentry
  rw [bne_iff_ne]
  intro heq
  exact h entry hentry (heq ▸ rfl)

section Literals

variable {mark : Char} {word : List Char} {n : Nat}

/-- from 2^63 on a literal is refused -/
theorem literal_eq_none (hword : Writes 16 n word) (hn : ¬ n < 2 ^ 63) :
    Literal.ofWord? ('0' :: mark :: word) = none := by
  have hread : readNumeral? 16 word = some n := (readNumeral?_eq_some_iff (by decide) (by decide)).2 hword
  have hbound : Literal.bound ≤ n := literal_bound_eq ▸ not_lt.1 hn
  simp [Literal.ofWord?, hread, hbound]

/-- no register and no mnemonic starts with a zero -/
theorem ofLexeme_zero_cons (rest : List Char) (h : Literal.ofWord? ('0' :: rest) = none) :
    Token.ofLexeme ('0' :: rest) = .other ('0' :: rest) := by
  have hregister : Register.ofName? ('0' :: rest) = none := lookup_eq_none_of_head (by decide) _
  have hmnemonic : Mnemonic.ofWord? ('0' :: rest) = none := lookup_eq_none_of_head (by decide) _
  rw [Token.ofLexeme_word rest (by decide), Token.ofWord, h, hregister, hmnemonic]

/-- a literal is a number below 2^63, and else nothing but its text -/
theorem ofLexeme_literal (hmark : mark = 'x' ∨ mark = 'X') (hword : Writes 16 n word) :
    Token.ofLexeme ('0' :: mark :: word) =
      if n < 2 ^ 63 then .immediate n word.length else .other ('0' :: mark :: word) := by
  split_ifs with hn
  · exact ofLexeme_eq_immediate_iff.2 (.plain (.intro hmark hword (literal_bound_eq ▸ hn)))
  · exact ofLexeme_zero_cons _ (literal_eq_none hword hn)

/-- a literal after a minus sign is a negated number below 2^63, and else nothing but its text -/
theorem ofLexeme_negated (hmark : mark = 'x' ∨ mark = 'X') (hword : Writes 16 n word) :
    Token.ofLexeme ('-' :: '0' :: mark :: word) =
      if n < 2 ^ 63 then .immediate (-n) word.length else .other ('-' :: '0' :: mark :: word) := by
  split_ifs with hn
  · exact ofLexeme_eq_immediate_iff.2 (.negated (.intro hmark hword (literal_bound_eq ▸ hn)))
  · have htoken : Token.ofLexeme ('-' :: '0' :: mark :: word) = Token.ofNegated ('0' :: mark :: word) := rfl
    rw [htoken, Token.ofNegated, literal_eq_none hword hn]

end Literals

/-! ## Literals of instructions -/

/-- a line has a literal where its instruction expects one, with the value and the count of digits as written -/
inductive HasLiteral (line : Line) : Instruction → Int → Nat → Prop
  | lui {rt : Register} {upper : UInt16} {value : Int} {digits : Nat} {l₁ l₂ : Lexeme} {rest : List Lexeme}
      (hfirst : FirstMnemonic (lexemes line) .lui (l₁ :: [','] :: l₂ :: rest)) (hrt : RegisterLexeme rt l₁)
      (hvalue : NumberLexeme value digits l₂) : HasLiteral line (.lui rt upper) value digits
  | addiu {rt rs : Register} {imm : Int32} {value : Int} {digits : Nat} {l₁ l₂ l₃ : Lexeme} {rest : List Lexeme}
      (hfirst : FirstMnemonic (lexemes line) .addiu (l₁ :: [','] :: l₂ :: [','] :: l₃ :: rest))
      (hrt : RegisterLexeme rt l₁) (hrs : RegisterLexeme rs l₂) (hvalue : NumberLexeme value digits l₃) :
      HasLiteral line (.addiu rt rs imm) value digits

section Instructions

variable {line : Line} {rt rs : Register}

theorem exists_decodes {i : Instruction} (h : Instruction.ofLine? line = some i) :
    ∃ m operands, FirstMnemonic (lexemes line) m operands ∧ Decodes m operands i :=
  (bind_statement_eq_some_iff (fun _ _ _ => ofStatement?_map_eq_some_iff) line i).1 h

/-- the tokens after the first mnemonic of a line are always the same -/
theorem FirstMnemonic.map_ofLexeme_eq {ls operands others : List Lexeme} {m : Mnemonic}
    (h : FirstMnemonic ls m operands) (hothers : FirstMnemonic ls m others) :
    operands.map Token.ofLexeme = others.map Token.ofLexeme := by
  have hstatement : ∀ {ops : List Lexeme}, FirstMnemonic ls m ops →
      Statement.ofTokens? (ls.map Token.ofLexeme) = some ⟨m, ops.map Token.ofLexeme⟩ :=
    fun hops => ofTokens?_eq_some_iff.2 ⟨_, hops, rfl⟩
  have hsame := (hstatement h).symm.trans (hstatement hothers)
  exact (Statement.mk.inj (Option.some.inj hsame)).2

/-- a line has one literal for its instruction -/
theorem HasLiteral.unique {i : Instruction} {value other : Int} {digits count : Nat}
    (h : HasLiteral line i value digits) (hother : HasLiteral line i other count) :
    other = value ∧ count = digits := by
  cases h with
  | lui hfirst _ hvalue =>
    cases hother with
    | lui hfirst' _ hvalue' =>
      have htokens := hfirst.map_ofLexeme_eq hfirst'
      simp only [List.map_cons, List.cons.injEq, ofLexeme_eq_immediate_iff.2 hvalue,
        ofLexeme_eq_immediate_iff.2 hvalue', Token.immediate.injEq] at htokens
      exact ⟨htokens.2.2.1.1.symm, htokens.2.2.1.2.symm⟩
  | addiu hfirst _ _ hvalue =>
    cases hother with
    | addiu hfirst' _ _ hvalue' =>
      have htokens := hfirst.map_ofLexeme_eq hfirst'
      simp only [List.map_cons, List.cons.injEq, ofLexeme_eq_immediate_iff.2 hvalue,
        ofLexeme_eq_immediate_iff.2 hvalue', Token.immediate.injEq] at htokens
      exact ⟨htokens.2.2.2.2.1.1.symm, htokens.2.2.2.2.1.2.symm⟩

theorem HasLiteral.iff {i : Instruction} {value : Int} {digits : Nat} (h : HasLiteral line i value digits) (v : Int)
    (d : Nat) : HasLiteral line i v d ↔ v = value ∧ d = digits := by
  refine ⟨fun hother => h.unique hother, ?_⟩
  rintro ⟨rfl, rfl⟩
  exact h

/-- the upper half of an address is the literal itself -/
theorem hasLiteral_lui {upper : UInt16} (h : Instruction.ofLine? line = some (.lui rt upper)) :
    ∃ digits, HasLiteral line (.lui rt upper) upper.toNat digits := by
  obtain ⟨m, operands, hfirst, hdecodes⟩ := exists_decodes h
  cases hdecodes with
  | lui hrt hupper _ => exact ⟨_, .lui hfirst hrt (unsignedLexeme_iff.1 hupper)⟩

/-- the amount to add is the literal in a signed 32-bit word -/
theorem hasLiteral_addiu {imm : Int32} (h : Instruction.ofLine? line = some (.addiu rt rs imm)) :
    ∃ value digits, HasLiteral line (.addiu rt rs imm) value digits ∧ Int32.ofInt value = imm := by
  obtain ⟨m, operands, hfirst, hdecodes⟩ := exists_decodes h
  cases hdecodes with
  | addiu hrt hrs hvalue => exact ⟨_, _, .addiu hfirst hrt hrs hvalue, rfl⟩

end Instructions

/-! ## Narrower words -/

/-- a number that fits into 16 bits loses nothing there -/
theorem toUInt16_ofInt_toNat (upper : UInt16) : (Int64.ofInt upper.toNat).toUInt64.toUInt16 = upper := by
  have hlt := upper.toNat_lt
  have hword : (Int64.ofInt upper.toNat).toUInt64 = UInt64.ofNat upper.toNat := by
    rw [Int64.ofInt_eq_ofNat]
    rfl
  apply UInt16.toNat_inj.1
  rw [hword, UInt64.toNat_toUInt16, UInt64.toNat_ofNat']
  omega

/-- a sum in 32 bits is right modulo 2^32, whatever the amount -/
theorem toNat_add_narrowed (base : UInt32) (value : Int) :
    ((base + (Int32.ofInt value).toUInt32).toNat : Int) = (base.toNat + value) % 2 ^ 32 := by
  calc ((base + (Int32.ofInt value).toUInt32).toNat : Int)
      = ((base.toNat + (UInt32.ofInt value).toNat) % 2 ^ 32 : Nat) := by rw [toUInt32_ofInt, UInt32.toNat_add]
    _ = (base.toNat + value % 2 ^ 32) % 2 ^ 32 := by rw [Int.natCast_emod, Int.natCast_add, toNat_ofInt]; rfl
    _ = (base.toNat + value) % 2 ^ 32 := Int.add_emod_emod ..

/-! ## From the line to the register -/

/-- **Literals keep their value.** Every number among the tokens of a line has a digit and is bounded by their count and
by 2^63, so a signed 64-bit word holds it and its negation.
The mark `0x` with any digits writes some number. Wherever it stands in a line, bare or after a minus sign, it is read
as that number if this is below 2^63, and else as nothing but its text.
An instruction `lui` or `addiu` on a line has one literal there. The upper half that `lui` loads is the literal, and
nothing is lost in its 16 bits. From zero and from a known register that it may start from, `addiu` stores in a register
that it may load the sum with the literal modulo 2^32; from any other source it stores nothing. -/
theorem immediates_exact :
    (∀ (line : Line) (value : Int) (digits : Nat), .immediate value digits ∈ tokens line →
      1 ≤ digits ∧ value.natAbs < 16 ^ digits ∧ value.natAbs < 2 ^ 63 ∧
      (Int64.ofInt value).toInt = value ∧ (-Int64.ofInt value).toInt = -value) ∧
    (∀ (mark : Char) (word : List Char), mark = 'x' ∨ mark = 'X' → word ≠ [] → (∀ c ∈ word, c ∈ hexDigits) →
      ∃ n, Writes 16 n word ∧ ∀ (line : Line) (k : Nat),
        ((lexemes line)[k]? = some ('0' :: mark :: word) → (tokens line)[k]? =
          some (if n < 2 ^ 63 then .immediate n word.length else .other ('0' :: mark :: word))) ∧
        ((lexemes line)[k]? = some ('-' :: '0' :: mark :: word) → (tokens line)[k]? =
          some (if n < 2 ^ 63 then .immediate (-n) word.length else .other ('-' :: '0' :: mark :: word)))) ∧
    (∀ (line : Line) (rt : Register) (upper : UInt16), Instruction.ofLine? line = some (.lui rt upper) →
      ∃ value digits, (∀ v d, HasLiteral line (.lui rt upper) v d ↔ v = value ∧ d = digits) ∧
        (upper.toNat : Int) = value ∧ (Int64.ofInt value).toUInt64.toUInt16 = upper) ∧
    ∀ (line : Line) (rt rs : Register) (imm : Int32), Instruction.ofLine? line = some (.addiu rt rs imm) →
      ∃ value digits, (∀ v d, HasLiteral line (.addiu rt rs imm) v d ↔ v = value ∧ d = digits) ∧
        (Int64.ofInt value).toInt32 = imm ∧ ∀ regs : RegisterFile,
          (∀ target ∈ [Tracked.a0, .a1, .a2, .a3, .t0, .gp, .sp], target.register = rt → ∀ base, regs.AddsTo rs base →
            ∃ sum, regs.execute (.addiu rt rs imm) = regs.set target (some sum) ∧
              (sum.toNat : Int) = (base.toNat + value) % 2 ^ 32) ∧
          ((∀ base, ¬ regs.AddsTo rs base) → regs.execute (.addiu rt rs imm) = regs) := by
  refine ⟨fun line value digits h => ?_, fun mark word hmark hne hdigits => ?_, fun line rt upper h => ?_,
    fun line rt rs imm h => ?_⟩
  · obtain ⟨l, -, hl⟩ := exists_numberLexeme_of_mem h
    obtain ⟨hpos, hcount, hbound⟩ := hl.bounds
    exact ⟨hpos, hcount, hbound, toInt_ofInt_of_natAbs_lt hbound⟩
  · obtain ⟨n, hword⟩ := exists_writes hne hdigits
    refine ⟨n, hword, fun line k => ⟨fun hk => ?_, fun hk => ?_⟩⟩
    · rw [tokens, List.getElem?_map, hk, Option.map_some, ofLexeme_literal hmark hword]
    · rw [tokens, List.getElem?_map, hk, Option.map_some, ofLexeme_negated hmark hword]
  · obtain ⟨digits, hliteral⟩ := hasLiteral_lui h
    exact ⟨upper.toNat, digits, hliteral.iff, rfl, toUInt16_ofInt_toNat upper⟩
  · obtain ⟨value, digits, hliteral, rfl⟩ := hasLiteral_addiu h
    refine ⟨value, digits, hliteral.iff, Int64.toInt32_ofInt, fun regs => ⟨?_, fun hnone => ?_⟩⟩
    · rintro target htarget rfl base hbase
      exact ⟨_, RegisterFile.execute_addiu_of_addsTo htarget hbase _, toNat_add_narrowed base value⟩
    · exact RegisterFile.execute_addiu_of_not_addsTo hnone rt _

/-- an amount that no 32-bit word holds -/
def wideAmountLine : Line :=
  ['a', 'd', 'd', 'i', 'u', ' ', 'a', '0', ',', 'v', '0', ',', '-', '0', 'x', '1', 'F', 'F', 'F', 'F', 'F', 'F', 'F',
    '0']

/-- the largest upper half -/
def fullUpperLine : Line :=
  ['l', 'u', 'i', ' ', 'g', 'p', ',', '0', 'X', 'f', 'F', 'f', 'F']

/-- the digits of 2^63, after a zero -/
def boundDigits : List Char :=
  ['0', '8', '0', '0', '0', '0', '0', '0', '0', '0', '0', '0', '0', '0', '0', '0', '0']

/-- the registers when only the result of a call is known -/
def resultKnown : RegisterFile :=
  RegisterFile.unknown.set .v0 (some 0xFFFFFFF8)

/-- the wide amount is added modulo 2^32, the full upper half is kept, and minus 2^63 is no number, although a signed
64-bit word holds it -/
theorem immediates_exact_wide :
    (.immediate (-0x1FFFFFFF0) 9 ∈ tokens wideAmountLine ∧ (-Int64.ofInt (-0x1FFFFFFF0)).toInt = 0x1FFFFFFF0) ∧
    (tokens ('-' :: '0' :: 'x' :: boundDigits))[0]? = some (.other ('-' :: '0' :: 'x' :: boundDigits)) ∧
    (Instruction.ofLine? fullUpperLine = some (.lui Tracked.gp.register 0xFFFF) ∧
      ∃ digits, HasLiteral fullUpperLine (.lui Tracked.gp.register 0xFFFF) 0xFFFF digits) ∧
    Instruction.ofLine? wideAmountLine = some (.addiu Tracked.a0.register Tracked.v0.register 0x10) ∧
    ∃ sum, resultKnown.execute (.addiu Tracked.a0.register Tracked.v0.register 0x10) = resultKnown.set .a0 (some sum) ∧
      (sum.toNat : Int) = (0xFFFFFFF8 + -0x1FFFFFFF0) % 2 ^ 32 := by
  obtain ⟨hbounds, hliterals, hlui, haddiu⟩ := immediates_exact
  have hmem : .immediate (-0x1FFFFFFF0) 9 ∈ tokens wideAmountLine := by decide +kernel
  have hupper : Instruction.ofLine? fullUpperLine = some (.lui Tracked.gp.register 0xFFFF) := by decide +kernel
  have hamount : Instruction.ofLine? wideAmountLine = some (.addiu Tracked.a0.register Tracked.v0.register 0x10) := by
    decide +kernel
  refine ⟨⟨hmem, (hbounds _ _ _ hmem).2.2.2.2⟩, ?_, ⟨hupper, ?_⟩, hamount, ?_⟩
  · obtain ⟨n, hn, htoken⟩ := hliterals 'x' boundDigits (Or.inl rfl) (by decide) (by simp [boundDigits, hexDigits])
    have hread : readNumeral? 16 boundDigits = some (2 ^ 63) := by decide +kernel
    rw [(readNumeral?_eq_some_iff (by decide) (by decide)).2 hn] at hread
    obtain rfl := Option.some.inj hread
    exact (htoken ('-' :: '0' :: 'x' :: boundDigits) 0).2 (by decide +kernel)
  · obtain ⟨value, digits, hliteral, hvalue, -⟩ := hlui _ _ _ hupper
    exact ⟨digits, (hliteral _ _).2 ⟨hvalue, rfl⟩⟩
  · obtain ⟨value, digits, hliteral, -, hregs⟩ := haddiu _ _ _ _ hamount
    have hwritten : HasLiteral wideAmountLine (.addiu Tracked.a0.register Tracked.v0.register 0x10) (-0x1FFFFFFF0) 9 := by
      have hword : LiteralWord 0x1FFFFFFF0 9 ['0', 'x', '1', 'F', 'F', 'F', 'F', 'F', 'F', 'F', '0'] :=
        literal_eq_some_iff.1 (by decide +kernel)
      have hfirst : FirstMnemonic (lexemes wideAmountLine) .addiu [['a', '0'], [','], ['v', '0'], [','],
          ['-', '0', 'x', '1', 'F', 'F', 'F', 'F', 'F', 'F', 'F', '0']] :=
        ⟨[], ['a', 'd', 'd', 'i', 'u'], by decide +kernel, ofLexeme_eq_instruction_iff.1 (by decide +kernel), by simp⟩
      exact .addiu hfirst (.name (by decide)) (.name (by decide)) (.negated hword)
    obtain ⟨rfl, rfl⟩ := (hliteral _ _).1 hwritten
    exact (hregs resultKnown).1 .a0 (by decide) rfl 0xFFFFFFF8 (Or.inr ⟨.v0, by decide, rfl, rfl⟩)

/-- a listing that makes the stack pointer known and then adds to it -/
def stackSourceLines : List Line :=
  [['a', 'd', 'd', 'i', 'u', ' ', 's', 'p', ',', 'z', 'e', 'r', 'o', ',', '0', 'x', '1', '0', '0'],
    ['a', 'd', 'd', 'i', 'u', ' ', 'a', '0', ',', 's', 'p', ',', '0', 'x', '1', '0'],
    prepareHeapLine, syscallWord]

/-- **Not every known source is added to.** The stack pointer is known, `a0` is a register that `addiu` may load, and
still nothing is stored: at the call of this listing `sp` is 0x100 and `a0`, which should be 0x110, is unknown. -/
theorem stack_pointer_not_added :
    (¬ ∀ (line : Line) (rt rs : Register) (imm : Int32), Instruction.ofLine? line = some (.addiu rt rs imm) →
      ∃ value digits, HasLiteral line (.addiu rt rs imm) value digits ∧ ∀ regs : RegisterFile,
        ∀ target ∈ [Tracked.a0, .a1, .a2, .a3, .t0, .gp, .sp], target.register = rt →
          ∀ (source : Tracked) (base : UInt32), source.register = rs → regs.get source = some base →
            ∃ sum, regs.execute (.addiu rt rs imm) = regs.set target (some sum) ∧
              (sum.toNat : Int) = (base.toNat + value) % 2 ^ 32) ∧
    (SetupCall.find? (unlines stackSourceLines) CallNumber.setupHeap 5).map
      (fun call => (call.registers.get .sp, call.registers.get .a0)) = some (some 0x100, none) := by
  refine ⟨fun hall => ?_, by decide +kernel⟩
  have hline : Instruction.ofLine? ['a', 'd', 'd', 'i', 'u', ' ', 'a', '0', ',', 's', 'p', ',', '0', 'x', '1', '0'] =
      some (.addiu Tracked.a0.register Tracked.sp.register 0x10) := by decide +kernel
  obtain ⟨value, digits, -, hregs⟩ := hall _ _ _ _ hline
  obtain ⟨sum, hsum, -⟩ := hregs (RegisterFile.unknown.set .sp (some 0x100)) .a0 (by decide) rfl .sp 0x100 rfl rfl
  exact absurd (congrArg RegisterFile.a0 hsum) nofun

end MemorySetup
