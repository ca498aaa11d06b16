/-
White space around a line does not matter to what the line says.

A line is read in three ways: for its instruction, for the call number that it prepares, and for a mention of a kernel
call. White space of Unicode other than the blanks makes tokens of its own, so this is not a matter of skipping it:
- `lexemes_append`, `tokens_append`: a line can be cut wherever the two neighbours do not belong to one lexeme, and the
  lexemes and tokens of the parts follow each other;
- `tokens_whitespace`: white space gives tokens that are nothing but themselves (`Token.IsOther`);
- `ofTokens?_append_others`, `sameOperands_append_others`: such tokens neither start a statement nor complete one;
- `ofLine_congr`: lines whose statements start alike (`SameStatement`) say the same, if they mention a call alike.
A mention of a kernel call lies on one side of every place that a neighbour separates (`mentionsSyscall_append`).
The main statement is `ofLine_trim`: a line and the trimmed line have the same reading. Hence the pass over trimmed
lines and the search for blocks in untrimmed ones see the same listing (`trimmedReadings_eq`).
-/
import Mathlib.Data.List.SplitBy
import MemorySetup.SetupCall

namespace MemorySetup

open Text

/-! ## Cutting a line between two lexemes -/

theorem startsComment_iff {c : Char} : startsComment c = true ↔ c = '#' ∨ c = ';' := by
  simp [startsComment]

theorem code_append {a : Line} (b : Line) (ha : ∀ c ∈ a, startsComment c = false) : code (a ++ b) = a ++ code b :=
  List.takeWhile_append_of_pos fun c hc => by simp [ha c hc]

theorem code_eq_self {a : Line} (ha : ∀ c ∈ a, startsComment c = false) : code a = a := by
  simpa [code] using code_append [] ha

/-- after a comment character nothing more is read -/
theorem code_append_of_comment {a : Line} {c : Char} (b : Line) (hc : c ∈ a) (hs : startsComment c = true) :
    code (a ++ b) = code a := by
  induction a with
  | nil => cases hc
  | cons x a ih =>
    by_cases hx : startsComment x = true
    · simp [code, hx]
    · rcases List.mem_cons.1 hc with rfl | hc
      · exact absurd hs hx
      · have ih := ih hc
        simp only [code] at ih
        simp [code, hx, ih]

theorem head?_code {b : Line} {y : Char} (hy : y ∈ (code b).head?) : y ∈ b.head? := by
  cases b with
  | nil => exact hy
  | cons x b =>
    rw [code, List.takeWhile_cons] at hy
    split at hy
    · exact hy
    · cases hy

/-- a line without comment can be cut between two lexemes -/
theorem lexemes_append {a b : Line} (ha : ∀ c ∈ a, startsComment c = false)
    (seam : ∀ x ∈ a.getLast?, ∀ y ∈ b.head?, glued x y = false) : lexemes (a ++ b) = lexemes a ++ lexemes b := by
  have hsplit : (a ++ code b).splitBy glued = a.splitBy glued ++ (code b).splitBy glued :=
    List.splitBy_append fun x hx y hy => seam x hx y (head?_code hy)
  simp only [lexemes]
  rw [code_append b ha, code_eq_self ha, hsplit, List.filter_append]

theorem tokens_append {a b : Line} (ha : ∀ c ∈ a, startsComment c = false)
    (seam : ∀ x ∈ a.getLast?, ∀ y ∈ b.head?, glued x y = false) : tokens (a ++ b) = tokens a ++ tokens b := by
  rw [tokens, lexemes_append ha seam, List.map_append]
  rfl

theorem tokens_append_of_comment {a : Line} {c : Char} (b : Line) (hc : c ∈ a) (hs : startsComment c = true) :
    tokens (a ++ b) = tokens a := by
  rw [tokens, lexemes, code_append_of_comment b hc hs]
  rfl

/-! ## White space -/

/-- the code points of white space -/
def whitespaceCodes : List Nat :=
  whitespaceRanges.flatMap fun r => List.range' r.1 (r.2 + 1 - r.1)

theorem mem_whitespaceCodes {c : Char} (h : isWhitespace c = true) : c.toNat ∈ whitespaceCodes := by
  simp only [isWhitespace, inRanges, List.any_eq_true, Bool.and_eq_true, decide_eq_true_eq] at h
  obtain ⟨r, hr, hlo, hhi⟩ := h
  exact List.mem_flatMap.2 ⟨r, hr, List.mem_range'_1.2 ⟨hlo, by omega⟩⟩

/-- a character that means nothing: it is a lexeme by itself, and no letter of the word for a kernel call -/
structure Idle (c : Char) : Prop where
  word : isWordChar c = false
  sign : isSign c = false
  comment : startsComment c = false
  token : Token.ofLexeme [c] = .other [c]
  letter : c.toLower ∉ syscallWord

theorem idle_of_isWhitespace {c : Char} (h : isWhitespace c = true) : Idle c := by
  have hall : ∀ n ∈ whitespaceCodes, isWordChar (Char.ofNat n) = false ∧ isSign (Char.ofNat n) = false ∧
      startsComment (Char.ofNat n) = false ∧ Token.ofLexeme [Char.ofNat n] = .other [Char.ofNat n] ∧
      (Char.ofNat n).toLower ∉ syscallWord := by
    decide +kernel
  have hc := hall c.toNat (mem_whitespaceCodes h)
  rw [Char.ofNat_toNat] at hc
  exact ⟨hc.1, hc.2.1, hc.2.2.1, hc.2.2.2.1, hc.2.2.2.2⟩

theorem Idle.glued_left {c : Char} (h : Idle c) (x : Char) : glued x c = false := by
  simp [glued, h.word]

theorem Idle.glued_right {c : Char} (h : Idle c) (y : Char) : glued c y = false := by
  simp [glued, h.word, h.sign]

/-- a token that only stands for its text -/
def Token.IsOther (t : Token) : Prop :=
  ∃ text, t = .other text

theorem tokens_idle {c : Char} (h : Idle c) : ∀ t ∈ tokens [c], t.IsOther := by
  intro t ht
  have hsplit : [c].splitBy glued = [[c]] := List.splitBy_of_isChain (List.cons_ne_nil c []) (List.isChain_singleton c)
  rw [tokens, lexemes, code_eq_self (by simp [h.comment]), hsplit] at ht
  obtain ⟨l, hl, rfl⟩ := List.mem_map.1 ht
  obtain rfl := List.mem_singleton.1 (List.mem_of_mem_filter hl)
  exact ⟨[c], h.token⟩

/-- white space gives tokens that are nothing but themselves -/
theorem tokens_whitespace {w : Line} (hw : ∀ c ∈ w, Idle c) : ∀ t ∈ tokens w, t.IsOther := by
  induction w with
  | nil => intro t ht; cases ht
  | cons c w ih =>
    have hc := hw c List.mem_cons_self
    have hcut : tokens (c :: w) = tokens [c] ++ tokens w :=
      tokens_append (a := [c]) (by simp [hc.comment]) (fun x hx y _ => by simp at hx; subst hx; exact hc.glued_right y)
    intro t ht
    rw [hcut] at ht
    rcases List.mem_append.1 ht with ht | ht
    · exact tokens_idle hc t ht
    · exact ih (fun d hd => hw d (List.mem_cons_of_mem c hd)) t ht

/-- the tokens of a line with white space before it -/
theorem tokens_before {w : Line} (hw : ∀ c ∈ w, Idle c) (line : Line) :
    tokens (w ++ line) = tokens w ++ tokens line :=
  tokens_append (fun c hc => (hw c hc).comment)
    fun x hx y _ => (hw x (List.mem_of_getLast? hx)).glued_right y

/-- white space after a line is read or stands in the comment -/
theorem tokens_after {w : Line} (hw : ∀ c ∈ w, Idle c) (line : Line) :
    ∃ extra, (∀ t ∈ extra, t.IsOther) ∧ tokens (line ++ w) = tokens line ++ extra := by
  by_cases hcomment : ∃ c ∈ line, startsComment c = true
  · obtain ⟨c, hc, hs⟩ := hcomment
    refine ⟨[], by simp, ?_⟩
    rw [tokens_append_of_comment w hc hs, List.append_nil]
  · refine ⟨tokens w, tokens_whitespace hw, tokens_append ?_ ?_⟩
    · intro c hc
      exact Bool.eq_false_iff.2 fun hs => hcomment ⟨c, hc, hs⟩
    · intro x _ y hy
      exact (hw y (List.mem_of_mem_head? hy)).glued_left x

/-! ## Statements -/

/-- tokens that are no mnemonics are skipped up to the first that is one -/
theorem ofTokens?_append_of_ne {extra : List Token} (he : ∀ t ∈ extra, ∀ m, t ≠ .instruction m) (ts : List Token) :
    Statement.ofTokens? (extra ++ ts) = Statement.ofTokens? ts := by
  induction extra with
  | nil => rfl
  | cons t extra ih =>
    rw [List.cons_append, ← ih fun u hu => he u (List.mem_cons_of_mem t hu)]
    exact Statement.ofTokens?.eq_3 t (extra ++ ts) (he t List.mem_cons_self)

theorem ofTokens?_others_append {extra : List Token} (he : ∀ t ∈ extra, t.IsOther) (ts : List Token) :
    Statement.ofTokens? (extra ++ ts) = Statement.ofTokens? ts := by
  refine ofTokens?_append_of_ne (fun t ht m => ?_) ts
  obtain ⟨text, rfl⟩ := he t ht
  exact Token.noConfusion

theorem ofTokens?_others {extra : List Token} (he : ∀ t ∈ extra, t.IsOther) : Statement.ofTokens? extra = none := by
  have h := ofTokens?_others_append he []
  rwa [List.append_nil] at h

/-- tokens at the end only add to the operands, unless no statement starts before them -/
theorem ofTokens?_append (ts extra : List Token) : Statement.ofTokens? (ts ++ extra) =
    ((Statement.ofTokens? ts).map fun s => ⟨s.mnemonic, s.operands ++ extra⟩).or (Statement.ofTokens? extra) := by
  fun_induction Statement.ofTokens? ts with
  | case1 => rfl
  | case2 m rest => rfl
  | case3 t rest hne ih =>
    rw [List.cons_append, ← ih]
    exact Statement.ofTokens?.eq_3 t (rest ++ extra) hne

theorem ofTokens?_append_others (ts : List Token) {extra : List Token} (he : ∀ t ∈ extra, t.IsOther) :
    Statement.ofTokens? (ts ++ extra) =
      (Statement.ofTokens? ts).map fun s => ⟨s.mnemonic, s.operands ++ extra⟩ := by
  rw [ofTokens?_append, ofTokens?_others he, Option.or_none]

/-- two lists of operands start with the same tokens, as far as these mean something -/
def SameOperands (ops other : List Token) : Prop :=
  ∀ wanted : List Token, (∀ t ∈ wanted, ¬ t.IsOther) → (wanted <+: ops ↔ wanted <+: other)

/-- operands are looked for at the start, so idle tokens at the end complete none -/
theorem sameOperands_append_others (ops : List Token) {extra : List Token} (he : ∀ t ∈ extra, t.IsOther) :
    SameOperands (ops ++ extra) ops := by
  refine fun wanted hw => ⟨fun h => ?_, fun h => h.trans (List.prefix_append ops extra)⟩
  obtain ⟨rest, hrest⟩ := h
  rcases List.append_eq_append_iff.1 hrest with ⟨more, rfl, -⟩ | ⟨shared, hshared, hextra⟩
  · exact List.prefix_append wanted more
  · cases shared with
    | nil =>
      have heq : wanted = ops := hshared.trans (List.append_nil ops)
      exact heq ▸ List.prefix_refl ops
    | cons t shared =>
      have ht : t.IsOther := he t (by simp [hextra])
      exact absurd ht (hw t (by simp [hshared]))

section Operands

variable {ops : List Token} {i : Instruction}

theorem lui?_eq_some_iff : Instruction.lui? ops = some i ↔ ∃ rt value digits,
    [.register rt, .comma, .immediate value digits] <+: ops ∧ 0 ≤ value ∧ digits ≤ 4 ∧
      i = .lui rt (UInt16.ofNat value.toNat) := by
  constructor
  · intro h
    unfold Instruction.lui? at h
    split at h
    · rename_i rt value digits rest
      split_ifs at h with hv
      exact ⟨rt, value, digits, ⟨rest, rfl⟩, hv.1, hv.2, (Option.some.inj h).symm⟩
    · cases h
  · rintro ⟨rt, value, digits, ⟨rest, rfl⟩, hv, hd, rfl⟩
    simp [Instruction.lui?, hv, hd]

theorem addiu?_eq_some_iff : Instruction.addiu? ops = some i ↔ ∃ rt rs value digits,
    [.register rt, .comma, .register rs, .comma, .immediate value digits] <+: ops ∧
      i = .addiu rt rs (Int32.ofInt value) := by
  constructor
  · intro h
    unfold Instruction.addiu? at h
    split at h
    · rename_i rt rs value digits rest
      exact ⟨rt, rs, value, digits, ⟨rest, rfl⟩, (Option.some.inj h).symm⟩
    · cases h
  · rintro ⟨rt, rs, value, digits, ⟨rest, rfl⟩, rfl⟩
    rfl

theorem daddu?_eq_some_iff : Instruction.daddu? ops = some i ↔ ∃ rd rs rt,
    [.register rd, .comma, .register rs, .comma, .register rt] <+: ops ∧ i = .daddu rd rs rt := by
  constructor
  · intro h
    unfold Instruction.daddu? at h
    split at h
    · rename_i rd rs rt rest
      exact ⟨rd, rs, rt, ⟨rest, rfl⟩, (Option.some.inj h).symm⟩
    · cases h
  · rintro ⟨rd, rs, rt, ⟨rest, rfl⟩, rfl⟩
    rfl

theorem ofOperands?_eq_some_iff {number : CallNumber} : CallNumber.ofOperands? ops = some number ↔ ∃ value digits,
    [.register Register.v1, .comma, .register Register.zero, .comma, .immediate value digits] <+: ops ∧
      1 ≤ digits ∧ digits ≤ 2 ∧ 0 ≤ value ∧ value < 256 ∧ number = UInt8.ofNat value.toNat := by
  constructor
  · intro h
    unfold CallNumber.ofOperands? at h
    split at h
    · rename_i rt rs value digits rest
      split_ifs at h with hv
      obtain ⟨rfl, rfl, h1, h2, h3, h4⟩ := hv
      exact ⟨value, digits, ⟨rest, rfl⟩, h1, h2, h3, h4, (Option.some.inj h).symm⟩
    · cases h
  · rintro ⟨value, digits, ⟨rest, rfl⟩, h1, h2, h3, h4, rfl⟩
    simp [CallNumber.ofOperands?, h1, h2, h3, h4]

end Operands

namespace SameOperands

variable {ops other : List Token}

theorem instruction (h : SameOperands ops other) (mnemonic : Mnemonic) :
    Instruction.ofStatement? ⟨mnemonic, ops⟩ = Instruction.ofStatement? ⟨mnemonic, other⟩ := by
  cases mnemonic with
  | lui =>
    refine Option.ext fun i => lui?_eq_some_iff.trans (Iff.trans ?_ lui?_eq_some_iff.symm)
    exact exists₃_congr fun rt value digits => and_congr_left' (h _ (by simp [Token.IsOther]))
  | addiu =>
    refine Option.ext fun i => addiu?_eq_some_iff.trans (Iff.trans ?_ addiu?_eq_some_iff.symm)
    exact exists₄_congr fun rt rs value digits => and_congr_left' (h _ (by simp [Token.IsOther]))
  | daddu =>
    refine Option.ext fun i => daddu?_eq_some_iff.trans (Iff.trans ?_ daddu?_eq_some_iff.symm)
    exact exists₃_congr fun rd rs rt => and_congr_left' (h _ (by simp [Token.IsOther]))
  | syscall => rfl

theorem callNumber (h : SameOperands ops other) (mnemonic : Mnemonic) :
    CallNumber.ofStatement? ⟨mnemonic, ops⟩ = CallNumber.ofStatement? ⟨mnemonic, other⟩ := by
  have hops : CallNumber.ofOperands? ops = CallNumber.ofOperands? other := by
    refine Option.ext fun number => ofOperands?_eq_some_iff.trans (Iff.trans ?_ ofOperands?_eq_some_iff.symm)
    exact exists₂_congr fun value digits => and_congr_left' (h _ (by simp [Token.IsOther]))
  simp only [CallNumber.ofStatement?, hops]

end SameOperands

/-- two statements have the same mnemonic and operands that start alike -/
def SameStatement (s other : Statement) : Prop :=
  s.mnemonic = other.mnemonic ∧ SameOperands s.operands other.operands

/-- what a line says is read off its statement, as far as that means something, and off its mention of a call -/
theorem ofLine_congr {line other : Line}
    (hs : Option.Rel SameStatement (Statement.ofTokens? (tokens line)) (Statement.ofTokens? (tokens other)))
    (hm : mentionsSyscall line = mentionsSyscall other) : Reading.ofLine line = Reading.ofLine other := by
  simp only [Reading.ofLine, Instruction.ofLine?, callNumber?, hm]
  generalize Statement.ofTokens? (tokens line) = s? at hs ⊢
  generalize Statement.ofTokens? (tokens other) = other? at hs ⊢
  cases hs with
  | none => rfl
  | some hsame =>
    obtain ⟨hmnemonic, hops⟩ := hsame
    simp only [Option.bind_some]
    rw [hops.instruction, hops.callNumber, hmnemonic]

/-- white space around a line adds nothing to its statement -/
theorem sameStatement_around {before after : Line} (hb : ∀ c ∈ before, Idle c) (ha : ∀ c ∈ after, Idle c)
    (line : Line) : Option.Rel SameStatement (Statement.ofTokens? (tokens (before ++ line ++ after)))
      (Statement.ofTokens? (tokens line)) := by
  obtain ⟨extra, he, hextra⟩ := tokens_after ha line
  have hcut : tokens (before ++ line ++ after) = tokens before ++ (tokens line ++ extra) := by
    rw [List.append_assoc, tokens_before hb, hextra]
  rw [hcut, ofTokens?_others_append (tokens_whitespace hb), ofTokens?_append_others _ he]
  cases Statement.ofTokens? (tokens line) with
  | none => exact Option.Rel.none
  | some s => exact Option.Rel.some ⟨rfl, sameOperands_append_others s.operands he⟩

/-! ## Mentions of a kernel call -/

/-- a word spans no place where either neighbour is not in the word -/
theorem infix_append_of_seam {w a b : List Char} (seam : (∀ c ∈ a.getLast?, c ∉ w) ∨ ∀ c ∈ b.head?, c ∉ w) :
    w <:+: a ++ b ↔ w <:+: a ∨ w <:+: b := by
  rw [List.infix_append_iff, ← or_assoc]
  refine or_iff_left_of_imp ?_
  rintro ⟨u, v, rfl, ⟨before, rfl⟩, ⟨after, rfl⟩⟩
  rcases List.eq_nil_or_concat u with rfl | ⟨init, c, rfl⟩
  · exact Or.inr (List.prefix_append v after).isInfix
  rcases v with _ | ⟨d, v⟩
  · rw [List.append_nil]
    exact Or.inl (List.suffix_append before _).isInfix
  · -- both parts of the word have letters, and these are the two neighbours
    rcases seam with hlast | hfirst
    · exact absurd (by simp) (hlast c (by simp [← List.append_assoc]))
    · exact absurd (by simp) (hfirst d rfl)

/-- no mention of a kernel call spans a place where either neighbour is no letter of its word -/
theorem mentionsSyscall_append {a b : Line}
    (seam : (∀ c ∈ a.getLast?, c.toLower ∉ syscallWord) ∨ ∀ c ∈ b.head?, c.toLower ∉ syscallWord) :
    mentionsSyscall (a ++ b) = (mentionsSyscall a || mentionsSyscall b) := by
  have hseam : (∀ c ∈ (lowercase a).getLast?, c ∉ syscallWord) ∨ ∀ c ∈ (lowercase b).head?, c ∉ syscallWord := by
    simpa [lowercase] using seam
  have hcut : lowercase (a ++ b) = lowercase a ++ lowercase b := List.map_append
  rw [Bool.eq_iff_iff, Bool.or_eq_true]
  simp only [mentionsSyscall, occursIn_iff, hcut]
  exact infix_append_of_seam hseam

/-- a text without some letter of the word does not mention a kernel call -/
theorem mentionsSyscall_eq_false {letter : Char} (hletter : letter ∈ syscallWord) {line : Line}
    (h : ∀ c ∈ line, c.toLower ≠ letter) : mentionsSyscall line = false := by
  refine Bool.eq_false_iff.2 fun hmention => ?_
  have hmem : letter ∈ lowercase line := (occursIn_iff.1 hmention).subset hletter
  obtain ⟨c, hc, hcase⟩ := List.mem_map.1 hmem
  exact h c hc hcase

/-- letters that the word for a kernel call does not have may stand around a line -/
theorem mentionsSyscall_around {before after : Line} (hb : ∀ c ∈ before, c.toLower ∉ syscallWord)
    (ha : ∀ c ∈ after, c.toLower ∉ syscallWord) (line : Line) :
    mentionsSyscall (before ++ line ++ after) = mentionsSyscall line := by
  have hletter : 's' ∈ syscallWord := by decide
  have hbefore : mentionsSyscall before = false :=
    mentionsSyscall_eq_false hletter fun c hc heq => hb c hc (heq ▸ hletter)
  have hafter : mentionsSyscall after = false :=
    mentionsSyscall_eq_false hletter fun c hc heq => ha c hc (heq ▸ hletter)
  have hlast : ∀ c ∈ before.getLast?, c.toLower ∉ syscallWord := fun c hc => hb c (List.mem_of_mem_getLast? hc)
  have hfirst : ∀ c ∈ after.head?, c.toLower ∉ syscallWord := fun c hc => ha c (List.mem_of_mem_head? hc)
  rw [mentionsSyscall_append (Or.inr hfirst), mentionsSyscall_append (Or.inl hlast), hbefore, hafter, Bool.false_or,
    Bool.or_false]

/-! ## Readings -/

/-- white space around a line does not change what it says -/
theorem ofLine_around {before after : Line} (hb : ∀ c ∈ before, isWhitespace c) (ha : ∀ c ∈ after, isWhitespace c)
    (line : Line) : Reading.ofLine (before ++ line ++ after) = Reading.ofLine line := by
  have hbefore : ∀ c ∈ before, Idle c := fun c hc => idle_of_isWhitespace (hb c hc)
  have hafter : ∀ c ∈ after, Idle c := fun c hc => idle_of_isWhitespace (ha c hc)
  apply ofLine_congr (sameStatement_around hbefore hafter line)
  exact mentionsSyscall_around (fun c hc => (hbefore c hc).letter) (fun c hc => (hafter c hc).letter) line

/-- **White space around a line.** A line and the trimmed line have the same instruction, prepare the same call number,
and mention a kernel call or not alike. -/
theorem ofLine_trim (line : Line) : Reading.ofLine (trim line) = Reading.ofLine line := by
  obtain ⟨before, after, hline, hb, ha⟩ := trim_decomposition line
  conv_rhs => rw [hline]
  exact (ofLine_around (List.all_eq_true.1 hb) (List.all_eq_true.1 ha) (trim line)).symm

/-- the readings of trimmed lines are those of the lines -/
theorem trimmedReadings_eq (ls : List Line) : trimmedReadings ls = ls.map Reading.ofLine :=
  List.map_congr_left fun line _ => ofLine_trim line

end MemorySetup
