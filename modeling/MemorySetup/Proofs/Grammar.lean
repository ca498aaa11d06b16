/-
The grammar of a listing line.

What a line says to be done is settled by its lexemes (`Cuts`). The first lexeme that is a mnemonic counts, and no other
(`FirstMnemonic`), and the lexemes right after it must be its operands, apart by commas:
- a register is a name of the calling convention, bare or after a dollar sign, or a dollar sign and a decimal numeral
  (`RegisterLexeme`);
- a number is the mark `0x` and a hexadecimal numeral below the bound of literals, maybe after a minus sign
  (`NumberLexeme`). Where the number must not be negative, a minus sign is still taken if all digits are zero
  (`UnsignedLexeme`).
`Decodes` gives the operands of each instruction and `Prepares` those that make an `addiu` prepare a call.

Neither mentions how tokens are made. Each kind of token is related to the lexemes that are read as it
(`ofLexeme_eq_register_iff` and its neighbours); numerals by `readNumeral?_eq_some_iff`, which says what `Writes` means.
The main statement is `read_iff_grammar`: a line is read as the grammar says, and nothing else is read.
-/
import MemorySetup.Proofs.Cutting
import MemorySetup.Proofs.Presentation

namespace MemorySetup

open Text

/-! ## Numerals -/

/-- the ways to write a number in base `b`: letters in either case, and any zeros before it -/
def Writes (b n : Nat) (s : List Char) : Prop :=
  ∃ zeros, lowercase s = List.replicate zeros '0' ++ Nat.toDigits b n

section Numerals

variable {b n : Nat} {s : List Char}

/-- a digit has one form in lower case -/
theorem digitChar_of_digitValue? {c : Char} {d : Nat} (h : digitValue? c = some d) : c.toLower = d.digitChar := by
  unfold digitValue? at h
  split_ifs at h with hdecimal hletter
  · have hall : ∀ n ∈ List.range' 48 10, (Char.ofNat n).toLower = (n - 48).digitChar := by decide
    have hcode : c.toNat ∈ List.range' 48 10 := by
      rw [Char.isDigit, Bool.and_eq_true, decide_eq_true_eq, decide_eq_true_eq] at hdecimal
      exact List.mem_range'_1.2 ⟨hdecimal.1, Nat.lt_succ_of_le hdecimal.2⟩
    have hc := hall c.toNat hcode
    rw [Char.ofNat_toNat] at hc
    rw [hc, ← Option.some.inj h]
    rfl
  · have hall : ∀ n ∈ List.range' 97 6, Char.ofNat n = (n - 97 + 10).digitChar := by decide
    have hcode : c.toLower.toNat ∈ List.range' 97 6 := List.mem_range'_1.2 ⟨hletter.1, Nat.lt_succ_of_le hletter.2⟩
    have hc := hall c.toLower.toNat hcode
    rw [Char.ofNat_toNat] at hc
    rw [hc, ← Option.some.inj h]
    rfl

theorem digitValues?_concat {c : Char} {ds : List Nat} (h : digitValues? b (s ++ [c]) = some ds) :
    ∃ init d, digitValues? b s = some init ∧ digitValue? c = some d ∧ d < b ∧ ds = init ++ [d] := by
  simp only [digitValues?, List.mapM_append, List.mapM_cons, List.mapM_nil, Option.bind_eq_bind, Option.pure_def,
    Option.bind_eq_some_iff, Option.some.injEq] at h
  obtain ⟨init, hinit, _, ⟨d, hd, _, rfl, rfl⟩, rfl⟩ := h
  simp only [digitBelow?, Option.filter_eq_some_iff, decide_eq_true_eq] at hd
  exact ⟨init, d, hinit, hd.1, hd.2, rfl⟩

/-- a numeral goes on with one more digit -/
theorem Writes.concat {c : Char} {d : Nat} (hb : 1 < b) (h : Writes b n s) (hc : c.toLower = d.digitChar) (hd : d < b) :
    Writes b (b * n + d) (s ++ [c]) := by
  obtain ⟨zeros, hs⟩ := h
  have hlower : lowercase (s ++ [c]) = List.replicate zeros '0' ++ (Nat.toDigits b n ++ [d.digitChar]) := by
    rw [← List.append_assoc, ← hs, ← hc]
    exact List.map_append
  rcases Nat.eq_zero_or_pos n with rfl | hn
  · -- after zeros only, the digit is the whole numeral
    refine ⟨zeros + 1, ?_⟩
    rw [hlower, List.replicate_succ', List.append_assoc, Nat.mul_zero, Nat.zero_add, Nat.toDigits_of_lt_base hd,
      Nat.toDigits_of_lt_base (Nat.zero_lt_of_lt hd)]
    rfl
  · refine ⟨zeros, ?_⟩
    rw [hlower, ← Nat.toDigits_of_lt_base hd, Nat.toDigits_append_toDigits hb hn hd]

theorem writes_of_readNumeral? (hb : 1 < b) (h : readNumeral? b s = some n) : Writes b n s := by
  -- digit by digit from the left, so the last one is taken off
  induction s using List.reverseRecOn generalizing n with
  | nil => cases h
  | append_singleton s c ih =>
    have hne : (s ++ [c]).isEmpty = false := by simp
    rw [readNumeral?, hne, if_neg Bool.false_ne_true, Option.map_eq_some_iff] at h
    obtain ⟨ds, hds, rfl⟩ := h
    obtain ⟨init, d, hinit, hvalue, hd, rfl⟩ := digitValues?_concat hds
    have hc := digitChar_of_digitValue? hvalue
    have hlast : ofDigits b (init ++ [d]) = b * ofDigits b init + d := by simp [ofDigits]
    rw [hlast]
    cases s with
    | nil =>
      obtain rfl : init = [] := by simpa [digitValues?] using hinit.symm
      refine ⟨0, ?_⟩
      simp [ofDigits, lowercase, hc, Nat.toDigits_of_lt_base hd]
    | cons c' s =>
      have hread : readNumeral? b (c' :: s) = some (ofDigits b init) := by simp [readNumeral?, hinit]
      exact (ih hread).concat hb hc hd

/-- **A numeral is read exactly if it writes the number.** -/
theorem readNumeral?_eq_some_iff (hb : 1 < b) (hb' : b ≤ 16) : readNumeral? b s = some n ↔ Writes b n s := by
  refine ⟨writes_of_readNumeral? hb, ?_⟩
  rintro ⟨zeros, hs⟩
  rw [← readNumeral?_lowercase, hs, readNumeral?_zeros_append (by omega) zeros Nat.toDigits_ne_nil]
  exact readNumeral?_toDigits hb hb' n

theorem Writes.length_toDigits_le (h : Writes b n s) : (Nat.toDigits b n).length ≤ s.length := by
  obtain ⟨zeros, hs⟩ := h
  have hlength : s.length = zeros + (Nat.toDigits b n).length := by
    simpa [lowercase] using congrArg List.length hs
  omega

theorem Writes.length_pos (h : Writes b n s) : 0 < s.length :=
  (List.length_pos_iff.2 Nat.toDigits_ne_nil).trans_le h.length_toDigits_le

/-- a numeral bounds its number -/
theorem Writes.lt_pow (hb : 1 < b) (h : Writes b n s) : n < b ^ s.length :=
  (Nat.length_toDigits_le_iff hb h.length_pos).1 h.length_toDigits_le

/-- zero is written with zeros only -/
theorem writes_zero_iff : Writes b 0 s ↔ ∃ more, s = List.replicate (more + 1) '0' := by
  have hdigits : Nat.toDigits b 0 = ['0'] := Nat.toDigits_zero b
  have hlower : ∀ more, lowercase s = List.replicate more '0' ↔ s = List.replicate more '0' := by
    intro more
    have hzero : ∀ c : Char, c.toLower = '0' ↔ c = '0' := fun c => toLower_eq_iff (by decide)
    simp [lowercase, List.eq_replicate_iff, hzero]
  simp only [Writes, hdigits, ← List.replicate_succ', hlower]

end Numerals

/-! ## Lexemes that mean something -/

/-- a lexeme spells a mnemonic, in any letter case -/
def Spells (l : Lexeme) (m : Mnemonic) : Prop :=
  (lowercase l, m) ∈ Mnemonic.spellings

/-- the lexemes that are a register -/
inductive RegisterLexeme (r : Register) : Lexeme → Prop
  | name {word : List Char} (h : (lowercase word, r) ∈ Register.abiNames) : RegisterLexeme r word
  | dollarName {word : List Char} (h : (lowercase word, r) ∈ Register.abiNames) : RegisterLexeme r ('$' :: word)
  | dollarNumber {word : List Char} (h : Writes 10 r.val word) : RegisterLexeme r ('$' :: word)

/-- the words that are a literal, with its magnitude and its count of digits -/
inductive LiteralWord (n : Nat) : Nat → List Char → Prop
  | intro {mark : Char} {word : List Char} (hmark : mark = 'x' ∨ mark = 'X') (hword : Writes 16 n word)
      (hbound : n < Literal.bound) : LiteralWord n word.length ('0' :: mark :: word)

/-- the lexemes that are a number, with their count of digits -/
inductive NumberLexeme : Int → Nat → Lexeme → Prop
  | plain {n digits : Nat} {word : List Char} (h : LiteralWord n digits word) : NumberLexeme n digits word
  | negated {n digits : Nat} {word : List Char} (h : LiteralWord n digits word) :
      NumberLexeme (-n) digits ('-' :: word)

/-- the lexemes that are a number and not negative; after a minus sign all digits are zero -/
inductive UnsignedLexeme : Nat → Nat → Lexeme → Prop
  | plain {n digits : Nat} {word : List Char} (h : LiteralWord n digits word) : UnsignedLexeme n digits word
  | minusZero {mark : Char} (hmark : mark = 'x' ∨ mark = 'X') (more : Nat) :
      UnsignedLexeme 0 (more + 1) ('-' :: '0' :: mark :: List.replicate (more + 1) '0')

theorem literal_eq_some_iff {n digits : Nat} {word : List Char} :
    Literal.ofWord? word = some ⟨n, digits⟩ ↔ LiteralWord n digits word := by
  constructor
  · intro h
    unfold Literal.ofWord? at h
    split at h
    · rename_i mark word
      split_ifs at h with hmark
      simp only [Option.map_eq_some_iff, Option.filter_eq_some_iff, decide_eq_true_eq, Literal.mk.injEq] at h
      obtain ⟨n, ⟨hread, hbound⟩, rfl, rfl⟩ := h
      exact .intro hmark ((readNumeral?_eq_some_iff (by decide) (by decide)).1 hread) hbound
    · cases h
  · rintro ⟨hmark, hword, hbound⟩
    have hread := (readNumeral?_eq_some_iff (by decide) (by decide)).2 hword
    simp [Literal.ofWord?, hmark, hread, hbound]

/-- a number that is not negative is written without a minus sign, or with zeros only -/
theorem unsignedLexeme_iff {n digits : Nat} {l : Lexeme} : UnsignedLexeme n digits l ↔ NumberLexeme n digits l := by
  constructor
  · rintro (h | ⟨hmark, more⟩)
    · exact .plain h
    · have hzeros := LiteralWord.intro hmark (writes_zero_iff.2 ⟨more, rfl⟩) (by decide)
      rw [List.length_replicate] at hzeros
      exact .negated hzeros
  · intro h
    generalize hvalue : (n : Int) = value at h
    cases h with
    | plain h =>
      obtain rfl := Int.natCast_inj.1 hvalue
      exact .plain h
    | @negated k digits word h =>
      obtain rfl : k = 0 := by omega
      obtain rfl : n = 0 := by omega
      obtain ⟨hmark, hword, -⟩ := h
      obtain ⟨more, rfl⟩ := writes_zero_iff.1 hword
      rw [List.length_replicate]
      exact .minusZero hmark more

/-- a literal has a digit, and is bounded by their count -/
theorem LiteralWord.bounds {n digits : Nat} {word : List Char} (h : LiteralWord n digits word) :
    1 ≤ digits ∧ n < 16 ^ digits ∧ n < Literal.bound := by
  obtain ⟨-, hword, hbound⟩ := h
  exact ⟨hword.length_pos, hword.lt_pow (by decide), hbound⟩

theorem UnsignedLexeme.bounds {n digits : Nat} {l : Lexeme} (h : UnsignedLexeme n digits l) :
    1 ≤ digits ∧ n < 16 ^ digits := by
  cases h with
  | plain h => exact ⟨h.bounds.1, h.bounds.2.1⟩
  | minusZero hmark more => exact ⟨Nat.le_add_left 1 more, Nat.pow_pos (by decide)⟩

/-! ## Tokens -/

theorem mem_of_lookup {α β : Type} [BEq α] [LawfulBEq α] {k : α} {v : β} {table : List (α × β)}
    (h : table.lookup k = some v) : (k, v) ∈ table := by
  obtain ⟨before, after, rfl, -⟩ := List.lookup_eq_some_iff.1 h
  simp

/-- what a token says about its lexeme -/
inductive ReadAs (l : Lexeme) : Token → Prop
  | instruction {m : Mnemonic} (h : Spells l m) : ReadAs l (.instruction m)
  | register {r : Register} (h : RegisterLexeme r l) : ReadAs l (.register r)
  | immediate {value : Int} {digits : Nat} (h : NumberLexeme value digits l) : ReadAs l (.immediate value digits)
  | comma (h : l = [',']) : ReadAs l .comma
  | openParen (h : l = ['(']) : ReadAs l .openParen
  | closeParen (h : l = [')']) : ReadAs l .closeParen
  | other : ReadAs l (.other l)

theorem readAs_ofWord (word : List Char) : ReadAs word (Token.ofWord word) := by
  unfold Token.ofWord
  split
  · rename_i literal hliteral
    exact .immediate (.plain (literal_eq_some_iff.1 hliteral))
  split
  · rename_i r hname
    exact .register (.name (mem_of_lookup hname))
  split
  · rename_i m hmnemonic
    exact .instruction (mem_of_lookup hmnemonic)
  · exact .other

theorem readAs_ofNegated (word : List Char) : ReadAs ('-' :: word) (Token.ofNegated word) := by
  unfold Token.ofNegated
  split
  · rename_i literal hliteral
    exact .immediate (.negated (literal_eq_some_iff.1 hliteral))
  · exact .other

theorem registerLexeme_of_ofDollarWord? {word : List Char} {r : Register} (h : Register.ofDollarWord? word = some r) :
    RegisterLexeme r ('$' :: word) := by
  unfold Register.ofDollarWord? at h
  split at h
  · rename_i n hread
    split_ifs at h with hn
    obtain rfl := Option.some.inj h
    exact .dollarNumber ((readNumeral?_eq_some_iff (by decide) (by decide)).1 hread)
  · exact .dollarName (mem_of_lookup h)

theorem readAs_ofDollar (word : List Char) : ReadAs ('$' :: word) (Token.ofDollar word) := by
  unfold Token.ofDollar
  split
  · rename_i r hregister
    exact .register (registerLexeme_of_ofDollarWord? hregister)
  · exact .other

/-- every lexeme is what its token says -/
theorem readAs_ofLexeme (l : Lexeme) : ReadAs l (Token.ofLexeme l) := by
  unfold Token.ofLexeme
  split
  · exact .comma rfl
  · exact .openParen rfl
  · exact .closeParen rfl
  · exact readAs_ofNegated _
  · exact readAs_ofDollar _
  · exact readAs_ofWord _

theorem readAs_of_ofLexeme {l : Lexeme} {t : Token} (h : Token.ofLexeme l = t) : ReadAs l t :=
  h ▸ readAs_ofLexeme l

section Tokens

variable {l : Lexeme}

/-- in lower case a lexeme is the same token, if that means something -/
theorem ofLexeme_lowercase_eq_iff {t : Token} (ht : ¬ t.IsOther) :
    Token.ofLexeme (lowercase l) = t ↔ Token.ofLexeme l = t := by
  rw [Token.ofLexeme_lowercase]
  constructor
  · intro h
    rw [← h, Token.lowercase_of_not_isOther]
    rwa [← Token.isOther_lowercase, h]
  · rintro rfl
    exact Token.lowercase_of_not_isOther ht

theorem ofLexeme_eq_instruction_iff {m : Mnemonic} : Token.ofLexeme l = .instruction m ↔ Spells l m := by
  constructor
  · intro h
    cases readAs_of_ofLexeme h with | instruction h => exact h
  · intro h
    have hall : ∀ entry ∈ Mnemonic.spellings, Token.ofLexeme entry.1 = .instruction entry.2 := by decide +kernel
    exact (ofLexeme_lowercase_eq_iff (by simp [Token.IsOther])).1 (hall _ h)

theorem ofLexeme_eq_comma_iff : Token.ofLexeme l = .comma ↔ l = [','] := by
  constructor
  · intro h
    cases readAs_of_ofLexeme h with | comma h => exact h
  · rintro rfl
    rfl

theorem ofLexeme_eq_register_iff {r : Register} : Token.ofLexeme l = .register r ↔ RegisterLexeme r l := by
  constructor
  · intro h
    cases readAs_of_ofLexeme h with | register h => exact h
  · have hname : ∀ entry ∈ Register.abiNames, Token.ofLexeme entry.1 = .register entry.2 := by decide +kernel
    have hdollar : ∀ entry ∈ Register.abiNames, Token.ofLexeme ('$' :: entry.1) = .register entry.2 := by
      decide +kernel
    have hmeans : ¬ (Token.register r).IsOther := by simp [Token.IsOther]
    intro h
    cases h with
    | name h => exact (ofLexeme_lowercase_eq_iff hmeans).1 (hname _ h)
    | dollarName h => exact (ofLexeme_lowercase_eq_iff hmeans).1 (hdollar _ h)
    | @dollarNumber word h =>
      have hread := (readNumeral?_eq_some_iff (by decide) (by decide)).2 h
      have htoken : Token.ofLexeme ('$' :: word) = Token.ofDollar word := rfl
      simp [htoken, Token.ofDollar, Register.ofDollarWord?, hread]

theorem ofLexeme_eq_immediate_iff {value : Int} {digits : Nat} :
    Token.ofLexeme l = .immediate value digits ↔ NumberLexeme value digits l := by
  constructor
  · intro h
    cases readAs_of_ofLexeme h with | immediate h => exact h
  · intro h
    cases h with
    | plain h =>
      have hliteral := literal_eq_some_iff.2 h
      cases h
      rw [Token.ofLexeme_word _ (by decide), Token.ofWord, hliteral]
    | @negated n digits word h =>
      have htoken : Token.ofLexeme ('-' :: word) = Token.ofNegated word := rfl
      rw [htoken, Token.ofNegated, literal_eq_some_iff.2 h]

end Tokens

/-! ## Statements -/

/-- the first mnemonic among the lexemes of a line, and the lexemes after it -/
def FirstMnemonic (ls : List Lexeme) (m : Mnemonic) (operands : List Lexeme) : Prop :=
  ∃ before word, ls = before ++ word :: operands ∧ Spells word m ∧ ∀ l ∈ before, ∀ other, ¬ Spells l other

/-- a mnemonic with the lexemes after it is an instruction -/
inductive Decodes : Mnemonic → List Lexeme → Instruction → Prop
  | lui {rt : Register} {upper : UInt16} {digits : Nat} {l₁ l₂ : Lexeme} {rest : List Lexeme}
      (hrt : RegisterLexeme rt l₁) (hupper : UnsignedLexeme upper.toNat digits l₂) (hdigits : digits ≤ 4) :
      Decodes .lui (l₁ :: [','] :: l₂ :: rest) (.lui rt upper)
  | addiu {rt rs : Register} {value : Int} {digits : Nat} {l₁ l₂ l₃ : Lexeme} {rest : List Lexeme}
      (hrt : RegisterLexeme rt l₁) (hrs : RegisterLexeme rs l₂) (hvalue : NumberLexeme value digits l₃) :
      Decodes .addiu (l₁ :: [','] :: l₂ :: [','] :: l₃ :: rest) (.addiu rt rs (Int32.ofInt value))
  | daddu {rd rs rt : Register} {l₁ l₂ l₃ : Lexeme} {rest : List Lexeme} (hrd : RegisterLexeme rd l₁)
      (hrs : RegisterLexeme rs l₂) (hrt : RegisterLexeme rt l₃) :
      Decodes .daddu (l₁ :: [','] :: l₂ :: [','] :: l₃ :: rest) (.daddu rd rs rt)
  | syscall {operands : List Lexeme} : Decodes .syscall operands .syscall

/-- a mnemonic with the lexemes after it prepares a call: `addiu v1, zero` and a number of one or two digits -/
inductive Prepares (number : CallNumber) : Mnemonic → List Lexeme → Prop
  | addiu {digits : Nat} {l₁ l₂ l₃ : Lexeme} {rest : List Lexeme} (hrt : RegisterLexeme Register.v1 l₁)
      (hrs : RegisterLexeme Register.zero l₂) (hnumber : UnsignedLexeme number.toNat digits l₃) (hdigits : digits ≤ 2) :
      Prepares number .addiu (l₁ :: [','] :: l₂ :: [','] :: l₃ :: rest)

/-- tokens of lexemes that are no mnemonics -/
theorem ne_instruction_of_mem_map {ls : List Lexeme} (h : ∀ l ∈ ls, ∀ m, ¬ Spells l m) :
    ∀ t ∈ ls.map Token.ofLexeme, ∀ m, t ≠ .instruction m := by
  intro t ht m hm
  obtain ⟨l, hl, rfl⟩ := List.mem_map.1 ht
  exact h l hl m (ofLexeme_eq_instruction_iff.1 hm)

/-- without a mnemonic there is no statement -/
theorem ofTokens?_eq_none {ls : List Lexeme} (h : ∀ l ∈ ls, ∀ m, ¬ Spells l m) :
    Statement.ofTokens? (ls.map Token.ofLexeme) = none := by
  have hskip := ofTokens?_append_of_ne (ne_instruction_of_mem_map h) []
  rwa [List.append_nil] at hskip

theorem ofTokens?_eq_some_iff {ls : List Lexeme} {s : Statement} :
    Statement.ofTokens? (ls.map Token.ofLexeme) = some s ↔
      ∃ operands, FirstMnemonic ls s.mnemonic operands ∧ s.operands = operands.map Token.ofLexeme := by
  constructor
  · intro h
    induction ls with
    | nil => cases h
    | cons l ls ih =>
      by_cases hl : ∃ m, Spells l m
      · obtain ⟨m, hm⟩ := hl
        rw [List.map_cons, ofLexeme_eq_instruction_iff.2 hm, Statement.ofTokens?] at h
        obtain rfl := Option.some.inj h
        exact ⟨ls, ⟨[], l, rfl, hm, by simp⟩, rfl⟩
      · rw [not_exists] at hl
        have hne : ∀ m, Token.ofLexeme l ≠ .instruction m := fun m hm => hl m (ofLexeme_eq_instruction_iff.1 hm)
        rw [List.map_cons, Statement.ofTokens?.eq_3 _ _ hne] at h
        obtain ⟨operands, ⟨before, word, rfl, hword, hbefore⟩, hoperands⟩ := ih h
        exact ⟨operands, ⟨l :: before, word, rfl, hword, List.forall_mem_cons.2 ⟨hl, hbefore⟩⟩, hoperands⟩
  · rintro ⟨operands, ⟨before, word, rfl, hword, hbefore⟩, hoperands⟩
    rw [List.map_append, ofTokens?_append_of_ne (ne_instruction_of_mem_map hbefore), List.map_cons,
      ofLexeme_eq_instruction_iff.2 hword, Statement.ofTokens?, ← hoperands]

/-! ## Operands -/

/-- the lexemes that start with given tokens -/
theorem cons_prefix_map_iff {t : Token} {ts : List Token} {ops : List Lexeme} :
    t :: ts <+: ops.map Token.ofLexeme ↔
      ∃ l rest, ops = l :: rest ∧ Token.ofLexeme l = t ∧ ts <+: rest.map Token.ofLexeme := by
  constructor
  · intro h
    cases ops with
    | nil => cases List.prefix_nil.1 h
    | cons l rest =>
      obtain ⟨rfl, hrest⟩ := List.cons_prefix_cons.1 h
      exact ⟨l, rest, rfl, rfl, hrest⟩
  · rintro ⟨l, rest, rfl, rfl, hrest⟩
    exact List.cons_prefix_cons.2 ⟨rfl, hrest⟩

/-- the lexemes that start with two registers and another operand, with commas between them -/
theorem threeOperands_prefix_iff {r₁ r₂ : Register} {t : Token} {ops : List Lexeme} :
    [.register r₁, .comma, .register r₂, .comma, t] <+: ops.map Token.ofLexeme ↔
      ∃ l₁ l₂ l₃ rest, ops = l₁ :: [','] :: l₂ :: [','] :: l₃ :: rest ∧ RegisterLexeme r₁ l₁ ∧
        RegisterLexeme r₂ l₂ ∧ Token.ofLexeme l₃ = t := by
  simp only [cons_prefix_map_iff, ofLexeme_eq_register_iff, ofLexeme_eq_comma_iff]
  constructor
  · rintro ⟨l₁, _, rfl, h₁, _, _, rfl, rfl, l₂, _, rfl, h₂, _, _, rfl, rfl, l₃, rest, rfl, h₃, -⟩
    exact ⟨l₁, l₂, l₃, rest, rfl, h₁, h₂, h₃⟩
  · rintro ⟨l₁, l₂, l₃, rest, rfl, h₁, h₂, h₃⟩
    exact ⟨l₁, _, rfl, h₁, _, _, rfl, rfl, l₂, _, rfl, h₂, _, _, rfl, rfl, l₃, rest, rfl, h₃, List.nil_prefix⟩

section Operands

variable {ops : List Lexeme} {i : Instruction}

theorem lui?_map_eq_some_iff : Instruction.lui? (ops.map Token.ofLexeme) = some i ↔ Decodes .lui ops i := by
  rw [lui?_eq_some_iff]
  simp only [cons_prefix_map_iff, ofLexeme_eq_register_iff, ofLexeme_eq_comma_iff, ofLexeme_eq_immediate_iff]
  constructor
  · rintro ⟨rt, value, digits, ⟨l₁, _, rfl, hrt, _, _, rfl, rfl, l₂, rest, rfl, hvalue, -⟩, hpos, hdigits, rfl⟩
    lift value to Nat using hpos
    have hupper := unsignedLexeme_iff.2 hvalue
    -- four digits fit, so nothing is cut off
    have hfits : value < UInt16.size := hupper.bounds.2.trans_le (Nat.pow_le_pow_right (by decide) hdigits)
    refine .lui hrt ?_ hdigits
    rwa [Int.toNat_natCast, UInt16.toNat_ofNat_of_lt' hfits]
  · intro h
    cases h with
    | @lui rt upper digits l₁ l₂ rest hrt hupper hdigits =>
      refine ⟨rt, upper.toNat, digits, ?_, Int.natCast_nonneg _, hdigits, by simp⟩
      exact ⟨l₁, _, rfl, hrt, _, _, rfl, rfl, l₂, rest, rfl, unsignedLexeme_iff.1 hupper, List.nil_prefix⟩

theorem addiu?_map_eq_some_iff : Instruction.addiu? (ops.map Token.ofLexeme) = some i ↔ Decodes .addiu ops i := by
  rw [addiu?_eq_some_iff]
  simp only [threeOperands_prefix_iff, ofLexeme_eq_immediate_iff]
  constructor
  · rintro ⟨rt, rs, value, digits, ⟨l₁, l₂, l₃, rest, rfl, hrt, hrs, hvalue⟩, rfl⟩
    exact .addiu hrt hrs hvalue
  · intro h
    cases h with
    | @addiu rt rs value digits l₁ l₂ l₃ rest hrt hrs hvalue =>
      exact ⟨rt, rs, value, digits, ⟨l₁, l₂, l₃, rest, rfl, hrt, hrs, hvalue⟩, rfl⟩

theorem daddu?_map_eq_some_iff : Instruction.daddu? (ops.map Token.ofLexeme) = some i ↔ Decodes .daddu ops i := by
  rw [daddu?_eq_some_iff]
  simp only [threeOperands_prefix_iff, ofLexeme_eq_register_iff]
  constructor
  · rintro ⟨rd, rs, rt, ⟨l₁, l₂, l₃, rest, rfl, hrd, hrs, hrt⟩, rfl⟩
    exact .daddu hrd hrs hrt
  · intro h
    cases h with
    | @daddu rd rs rt l₁ l₂ l₃ rest hrd hrs hrt =>
      exact ⟨rd, rs, rt, ⟨l₁, l₂, l₃, rest, rfl, hrd, hrs, hrt⟩, rfl⟩

theorem ofStatement?_map_eq_some_iff {m : Mnemonic} :
    Instruction.ofStatement? ⟨m, ops.map Token.ofLexeme⟩ = some i ↔ Decodes m ops i := by
  cases m with
  | lui => exact lui?_map_eq_some_iff
  | addiu => exact addiu?_map_eq_some_iff
  | daddu => exact daddu?_map_eq_some_iff
  | syscall =>
    refine ⟨fun h => ?_, fun h => ?_⟩
    · obtain rfl := Option.some.inj h
      exact .syscall
    · cases h
      rfl

theorem ofOperands?_map_eq_some_iff {number : CallNumber} :
    CallNumber.ofOperands? (ops.map Token.ofLexeme) = some number ↔ Prepares number .addiu ops := by
  rw [ofOperands?_eq_some_iff]
  simp only [threeOperands_prefix_iff, ofLexeme_eq_immediate_iff]
  constructor
  · rintro ⟨value, digits, ⟨l₁, l₂, l₃, rest, rfl, hrt, hrs, hvalue⟩, -, hdigits, hpos, hlt, rfl⟩
    lift value to Nat using hpos
    have hfits : value < UInt8.size := Int.ofNat_lt.1 hlt
    refine .addiu hrt hrs ?_ hdigits
    rw [Int.toNat_natCast, UInt8.toNat_ofNat_of_lt' hfits]
    exact unsignedLexeme_iff.2 hvalue
  · intro h
    cases h with
    | @addiu digits l₁ l₂ l₃ rest hrt hrs hnumber hdigits =>
      have hlt := number.toNat_lt
      refine ⟨number.toNat, digits, ?_, hnumber.bounds.1, hdigits, by omega, by omega, by simp⟩
      exact ⟨l₁, l₂, l₃, rest, rfl, hrt, hrs, unsignedLexeme_iff.1 hnumber⟩

theorem callNumber_map_eq_some_iff {m : Mnemonic} {number : CallNumber} :
    CallNumber.ofStatement? ⟨m, ops.map Token.ofLexeme⟩ = some number ↔ Prepares number m ops := by
  cases m with
  | addiu => exact ofOperands?_map_eq_some_iff
  | _ => exact ⟨nofun, nofun⟩

end Operands

/-! ## Lines -/

/-- what is read off the statement of a line is read off the first mnemonic and the lexemes after it -/
theorem bind_statement_eq_some_iff {α : Type} {read? : Statement → Option α} {P : Mnemonic → List Lexeme → α → Prop}
    (hread : ∀ m ops a, read? ⟨m, ops.map Token.ofLexeme⟩ = some a ↔ P m ops a) (line : Line) (a : α) :
    (Statement.ofTokens? (tokens line)).bind read? = some a ↔
      ∃ m operands, FirstMnemonic (lexemes line) m operands ∧ P m operands a := by
  simp only [tokens, Option.bind_eq_some_iff, ofTokens?_eq_some_iff]
  constructor
  · rintro ⟨⟨m, _⟩, ⟨operands, hfirst, rfl⟩, ha⟩
    exact ⟨m, operands, hfirst, (hread m operands a).1 ha⟩
  · rintro ⟨m, operands, hfirst, ha⟩
    exact ⟨⟨m, operands.map Token.ofLexeme⟩, ⟨operands, hfirst, rfl⟩, (hread m operands a).2 ha⟩

/-- **A line is read exactly as the grammar says.** Every line is cut into lexemes in one way. If none of them is a
mnemonic, the line has no instruction and prepares no call. Otherwise the first mnemonic counts: the line has an
instruction exactly if the lexemes after that mnemonic are operands of it, and prepares a call exactly if they are
those of an `addiu` that does. -/
theorem read_iff_grammar (line : Line) : ∃ ls, (∀ other, Cuts line other ↔ other = ls) ∧
    ((∀ l ∈ ls, ∀ m, ¬ Spells l m) → Instruction.ofLine? line = none ∧ callNumber? line = none) ∧
    (∀ i, Instruction.ofLine? line = some i ↔ ∃ m operands, FirstMnemonic ls m operands ∧ Decodes m operands i) ∧
    ∀ number, callNumber? line = some number ↔
      ∃ m operands, FirstMnemonic ls m operands ∧ Prepares number m operands := by
  refine ⟨lexemes line, fun other => cuts_iff, fun hnone => ?_, fun i => ?_, fun number => ?_⟩
  · rw [Instruction.ofLine?, callNumber?, tokens, ofTokens?_eq_none hnone]
    exact ⟨rfl, rfl⟩
  · exact bind_statement_eq_some_iff (fun _ _ _ => ofStatement?_map_eq_some_iff) line i
  · exact bind_statement_eq_some_iff (fun _ _ _ => callNumber_map_eq_some_iff) line number

/-- a label, then an `addiu` of minus zero, then another mnemonic and a comment -/
def minusZeroLine : Line :=
  ['l', 'u', 'i', '1', ':', 'A', 'd', 'd', 'I', 'u', ' ', '$', '0', '3', ' ', ',', 'Z', 'E', 'R', 'O', ',', '-', '0',
    'X', '0', '0', ' ', 'l', 'u', 'i', '#', 's', 'y', 's', 'c', 'a', 'l', 'l']

-- minus zero is not negative, so the line prepares a call; with a digit that is not zero it would not
example : Instruction.ofLine? minusZeroLine = some (.addiu Register.v1 Register.zero 0) ∧
    callNumber? minusZeroLine = some 0 := by
  decide +kernel

end MemorySetup
