/-
A line in context.

Listings are printed with addresses, raw words and labels before an instruction and with remarks after it. Blanks keep
these apart from the instruction whatever they end with, a word, a sign without a word or half a literal:
- the tokens of two texts with blanks between them are those of the one and then those of the other
  (`tokens_append_blank`), unless a comment starts in the first; then only the first is read
  (`tokens_append_of_comment`);
- what has no mnemonic is skipped (`ofTokens?_append_of_ne`);
- `ReadsStart`: both readers of a statement look at the start of its operands only, so an answer that is there stays
  whatever operands are added (`ReadsStart.bind_append`).
`read_in_context` puts this together.
-/
import MemorySetup.Proofs.Lexing

namespace MemorySetup

open Text

/-! ## Tokens -/

theorem not_startsComment_of_notMem {a : Line} (hhash : '#' ∉ a) (hsemicolon : ';' ∉ a) :
    ∀ c ∈ a, startsComment c = false := by
  intro c hc
  rw [← Bool.not_eq_true, startsComment_iff]
  rintro (rfl | rfl)
  · exact hhash hc
  · exact hsemicolon hc

/-- whatever stands after a line and blanks, the tokens of the line come first -/
theorem exists_tokens_append_blank {w : List Char} (hne : w ≠ []) (hw : Blank w) (b rest : Line) :
    ∃ extra, tokens (b ++ (w ++ rest)) = tokens b ++ extra := by
  by_cases hcomment : ∃ c ∈ b, startsComment c = true
  · obtain ⟨c, hc, hs⟩ := hcomment
    refine ⟨[], ?_⟩
    rw [tokens_append_of_comment _ hc hs, List.append_nil]
  · have hb : ∀ c ∈ b, startsComment c = false := fun c hc => Bool.eq_false_iff.2 fun hs => hcomment ⟨c, hc, hs⟩
    exact ⟨tokens rest, tokens_append_blank hb hw fun hempty => absurd hempty hne⟩

/-! ## Readers of statements -/

/-- an answer that is read off a statement stays when operands are added -/
def ReadsStart {α : Type} (read? : Statement → Option α) : Prop :=
  ∀ (m : Mnemonic) (ops extra : List Token) (answer : α),
    read? ⟨m, ops⟩ = some answer → read? ⟨m, ops ++ extra⟩ = some answer

theorem readsStart_instruction : ReadsStart Instruction.ofStatement? := by
  intro m ops extra i h
  have hmore : ∀ {wanted : List Token}, wanted <+: ops → wanted <+: ops ++ extra :=
    fun hwanted => hwanted.trans (List.prefix_append ops extra)
  cases m with
  | lui =>
    obtain ⟨rt, value, digits, hops, hrest⟩ := lui?_eq_some_iff.1 h
    exact lui?_eq_some_iff.2 ⟨rt, value, digits, hmore hops, hrest⟩
  | addiu =>
    obtain ⟨rt, rs, value, digits, hops, hi⟩ := addiu?_eq_some_iff.1 h
    exact addiu?_eq_some_iff.2 ⟨rt, rs, value, digits, hmore hops, hi⟩
  | daddu =>
    obtain ⟨rd, rs, rt, hops, hi⟩ := daddu?_eq_some_iff.1 h
    exact daddu?_eq_some_iff.2 ⟨rd, rs, rt, hmore hops, hi⟩
  | syscall => exact h

theorem readsStart_callNumber : ReadsStart CallNumber.ofStatement? := by
  intro m ops extra number h
  cases m with
  | addiu =>
    obtain ⟨value, digits, hops, hrest⟩ := ofOperands?_eq_some_iff.1 h
    exact ofOperands?_eq_some_iff.2 ⟨value, digits, hops.trans (List.prefix_append ops extra), hrest⟩
  | _ => cases h

/-- what is read off the first statement stays when tokens are added -/
theorem ReadsStart.bind_append {α : Type} {read? : Statement → Option α} (hread : ReadsStart read?) {ts : List Token}
    {answer : α} (h : (Statement.ofTokens? ts).bind read? = some answer) (extra : List Token) :
    (Statement.ofTokens? (ts ++ extra)).bind read? = some answer := by
  obtain ⟨s, hs, hanswer⟩ := Option.bind_eq_some_iff.1 h
  rw [ofTokens?_append, hs]
  exact hread s.mnemonic s.operands extra answer hanswer

/-! ## Lines -/

/-- **A line is read alike in context.** The tokens of a text without comment, of blanks and of any text after them are
those of the first text and then those of the last; what follows a comment character is not read at all. So an
instruction or the preparation of a call is read as it stands alone after any text without comment and mnemonic, and
once read it stays whatever follows, as long as blanks keep the texts apart. -/
theorem read_in_context :
    (∀ a w b : Line, '#' ∉ a → ';' ∉ a → w ≠ [] → Blank w → tokens (a ++ w ++ b) = tokens a ++ tokens b) ∧
    (∀ a rest : Line, '#' ∈ a ∨ ';' ∈ a → tokens (a ++ rest) = tokens a) ∧
    (∀ a w b : Line, '#' ∉ a → ';' ∉ a → w ≠ [] → Blank w → (∀ m, .instruction m ∉ tokens a) →
      Instruction.ofLine? (a ++ w ++ b) = Instruction.ofLine? b ∧ callNumber? (a ++ w ++ b) = callNumber? b) ∧
    ∀ b w rest : Line, w ≠ [] → Blank w →
      (∀ i, Instruction.ofLine? b = some i → Instruction.ofLine? (b ++ w ++ rest) = some i) ∧
      ∀ number, callNumber? b = some number → callNumber? (b ++ w ++ rest) = some number := by
  have hcut : ∀ a w b : Line, '#' ∉ a → ';' ∉ a → w ≠ [] → Blank w →
      tokens (a ++ w ++ b) = tokens a ++ tokens b := by
    intro a w b hhash hsemicolon hne hw
    rw [List.append_assoc]
    exact tokens_append_blank (not_startsComment_of_notMem hhash hsemicolon) hw fun hempty => absurd hempty hne
  refine ⟨hcut, fun a rest hcomment => ?_, fun a w b hhash hsemicolon hne hw hnone => ?_, fun b w rest hne hw => ?_⟩
  · rcases hcomment with hc | hc
    · exact tokens_append_of_comment rest hc rfl
    · exact tokens_append_of_comment rest hc rfl
  · have hskip : ∀ t ∈ tokens a, ∀ m, t ≠ .instruction m := by
      rintro t ht m rfl
      exact hnone m ht
    have hstatement : Statement.ofTokens? (tokens (a ++ w ++ b)) = Statement.ofTokens? (tokens b) := by
      rw [hcut a w b hhash hsemicolon hne hw, ofTokens?_append_of_ne hskip]
    simp only [Instruction.ofLine?, callNumber?, hstatement, and_self]
  · obtain ⟨extra, hextra⟩ := exists_tokens_append_blank hne hw b rest
    rw [List.append_assoc]
    simp only [Instruction.ofLine?, callNumber?, hextra]
    exact ⟨fun i hi => readsStart_instruction.bind_append hi extra,
      fun number hnumber => readsStart_callNumber.bind_append hnumber extra⟩

/-- an address and a raw word, and a sign that has no word yet -/
def rawWords : Line :=
  ['0', '0', '1', '0', '0', '0', '1', '0', ' ', '2', '4', '0', '3', '0', '0', '3', 'D', ' ', '-']

/-- the preparation is read after the raw words as it stands alone, and also with another mnemonic or with a comment
and more text behind it -/
theorem read_in_context_rawWords :
    ('#' ∉ rawWords ∧ ';' ∉ rawWords ∧ ∀ m, .instruction m ∉ tokens rawWords) ∧
    tokens (rawWords ++ ['\t'] ++ prepareHeapLine) = tokens rawWords ++ tokens prepareHeapLine ∧
    callNumber? (rawWords ++ ['\t'] ++ prepareHeapLine) = some CallNumber.setupHeap ∧
    callNumber? (prepareHeapLine ++ ['\r', ' '] ++ ['l', 'u', 'i']) = some CallNumber.setupHeap ∧
    tokens ((prepareHeapLine ++ [';']) ++ ['l', 'u', 'i']) = tokens (prepareHeapLine ++ [';']) := by
  obtain ⟨hcut, hcomment, hbefore, hafter⟩ := read_in_context
  have hhash : '#' ∉ rawWords := by decide
  have hsemicolon : ';' ∉ rawWords := by decide
  have hnone : ∀ m, .instruction m ∉ tokens rawWords := by
    intro m
    cases m <;> decide +kernel
  have halone : callNumber? prepareHeapLine = some CallNumber.setupHeap := by decide +kernel
  refine ⟨⟨hhash, hsemicolon, hnone⟩, hcut _ _ _ hhash hsemicolon (by decide) (by decide), ?_, ?_, ?_⟩
  · rw [(hbefore _ _ _ hhash hsemicolon (by decide) (by decide) hnone).2, halone]
  · exact (hafter _ _ _ (by decide) (by decide)).2 _ halone
  · exact hcomment _ _ (Or.inr (by decide))

end MemorySetup
