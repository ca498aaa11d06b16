/-
Lexemes and tokens of what stands in a line.

A line can be cut wherever no word goes on (`tokens_append_of_head`). What is cut off is then read by itself:
- blanks give no tokens (`tokens_blank_append`) and take apart what stands before and after them
  (`tokens_append_blank`), and a character that is no part of a word is a lexeme of its own (`tokens_cons`);
- a word, or a sign with the word after it, is one lexeme (`lexemes_word`), and so one token (`tokens_lexeme`);
- a lexeme is read as a mnemonic only if it is the word of that mnemonic (`mnemonic_of_ofLexeme`), and the mark `0x`
  with a numeral is read as the literal that it writes (`literal_toDigits`).
-/
import MemorySetup.Proofs.Numerals
import MemorySetup.Proofs.Trimming

namespace MemorySetup

open Text

/-! ## Blanks -/

/-- a run of blanks, maybe empty -/
def Blank (s : List Char) : Prop :=
  ∀ c ∈ s, isBlank c = true

instance (s : List Char) : Decidable (Blank s) :=
  decidable_of_iff (s.all isBlank = true) List.all_eq_true

theorem isWhitespace_of_isBlank {c : Char} (h : isBlank c = true) : isWhitespace c = true := by
  simp only [isBlank, Bool.or_eq_true, beq_iff_eq] at h
  rcases h with (rfl | rfl) | rfl <;> decide

theorem idle_of_isBlank {c : Char} (h : isBlank c = true) : Idle c :=
  idle_of_isWhitespace (isWhitespace_of_isBlank h)

/-- a line without comment can be cut before a character that continues no word -/
theorem tokens_append_of_head {a b : Line} (ha : ∀ c ∈ a, startsComment c = false)
    (hb : ∀ c ∈ b.head?, isWordChar c = false) : tokens (a ++ b) = tokens a ++ tokens b :=
  tokens_append ha fun x _ y hy => by simp [glued, hb y hy]

/-- a character that is no part of a word is a lexeme of its own -/
theorem tokens_cons {c : Char} (hcomment : startsComment c = false) (hword : isWordChar c = false)
    (hsign : isSign c = false) (line : Line) : tokens (c :: line) = tokens [c] ++ tokens line := by
  refine tokens_append (a := [c]) (by simpa using hcomment) fun x hx y _ => ?_
  obtain rfl : c = x := by simpa using hx
  simp [glued, hword, hsign]

theorem tokens_blank_append {w : List Char} (hw : Blank w) (line : Line) : tokens (w ++ line) = tokens line := by
  induction w with
  | nil => rfl
  | cons c w ih =>
    have hblank : isBlank c = true := hw c List.mem_cons_self
    have hc := idle_of_isBlank hblank
    have hnone : tokens [c] = [] := by
      simp only [isBlank, Bool.or_eq_true, beq_iff_eq] at hblank
      rcases hblank with (rfl | rfl) | rfl <;> decide
    rw [List.cons_append, tokens_cons hc.comment hc.word hc.sign, hnone]
    exact ih fun d hd => hw d (List.mem_cons_of_mem c hd)

/-- after blanks, or where nothing continues a word anyway, a line can be cut -/
theorem isWordChar_head?_blank_append {w rest : List Char} (hw : Blank w)
    (hrest : w = [] → ∀ c ∈ rest.head?, isWordChar c = false) : ∀ c ∈ (w ++ rest).head?, isWordChar c = false := by
  cases w with
  | nil => exact hrest rfl
  | cons b w =>
    intro c hc
    obtain rfl : b = c := by simpa using hc
    exact (idle_of_isBlank (hw b List.mem_cons_self)).word

/-- blanks take a line apart, whatever stands before them -/
theorem tokens_append_blank {a w b : Line} (ha : ∀ c ∈ a, startsComment c = false) (hw : Blank w)
    (hb : w = [] → ∀ c ∈ b.head?, isWordChar c = false) : tokens (a ++ (w ++ b)) = tokens a ++ tokens b := by
  rw [tokens_append_of_head ha (isWordChar_head?_blank_append hw hb), tokens_blank_append hw]

theorem tokens_comma_append (line : Line) : tokens (',' :: line) = .comma :: tokens line := by
  have hcomma : tokens [','] = [.comma] := by decide
  rw [tokens_cons (by decide) (by decide) (by decide), hcomma]
  rfl

/-! ## Words -/

theorem isChain_glued {c : Char} {word : List Char} (hc : isWordChar c = true ∨ isSign c = true)
    (hword : ∀ d ∈ word, isWordChar d = true) : (c :: word).IsChain fun x y => glued x y = true := by
  induction word generalizing c with
  | nil => exact List.isChain_singleton c
  | cons d word ih =>
    have hd := hword d List.mem_cons_self
    refine List.isChain_cons_cons.2 ⟨by simpa [glued, hd] using hc, ?_⟩
    exact ih (Or.inl hd) fun e he => hword e (List.mem_cons_of_mem d he)

theorem startsComment_of_isWordChar {c : Char} (hc : isWordChar c = true ∨ isSign c = true) :
    startsComment c = false := by
  refine Bool.eq_false_iff.2 fun h => ?_
  rcases startsComment_iff.1 h with rfl | rfl <;> exact absurd hc (by decide)

theorem isBlank_of_isWordChar {c : Char} (hc : isWordChar c = true ∨ isSign c = true) : isBlank c = false := by
  refine Bool.eq_false_iff.2 fun h => ?_
  have hidle := idle_of_isBlank h
  simp [hidle.word, hidle.sign] at hc

/-- a word, or a sign and a word, is one lexeme -/
theorem lexemes_word {c : Char} {word : List Char} (hc : isWordChar c = true ∨ isSign c = true)
    (hword : ∀ d ∈ word, isWordChar d = true) : lexemes (c :: word) = [c :: word] := by
  have hcomment : ∀ d ∈ c :: word, startsComment d = false := by
    intro d hd
    rcases List.mem_cons.1 hd with rfl | hd
    · exact startsComment_of_isWordChar hc
    · exact startsComment_of_isWordChar (Or.inl (hword d hd))
  have hchain := isChain_glued hc hword
  rw [lexemes, code_eq_self hcomment, List.splitBy_of_isChain (List.cons_ne_nil c word) hchain]
  simp [isBlank_of_isWordChar hc]

theorem tokens_lexeme {c : Char} {word : List Char} (hc : isWordChar c = true ∨ isSign c = true)
    (hword : ∀ d ∈ word, isWordChar d = true) : tokens (c :: word) = [Token.ofLexeme (c :: word)] := by
  rw [tokens, lexemes_word hc hword]
  rfl

/-! ## Tokens of lexemes -/

namespace Token

/-- the characters that make a lexeme something else than a word -/
def marks : List Char := [',', '(', ')', '-', '$']

theorem ofLexeme_word {c : Char} (rest : List Char) (hc : c ∉ marks) : ofLexeme (c :: rest) = ofWord (c :: rest) := by
  unfold ofLexeme
  split <;> simp_all [marks]

end Token

theorem mnemonic_of_ofWord {word : List Char} {m : Mnemonic} (h : Token.ofWord word = .instruction m) :
    Mnemonic.ofWord? word = some m := by
  unfold Token.ofWord at h
  split at h
  · cases h
  · split at h
    · cases h
    · split at h
      · rename_i hm
        cases h
        exact hm
      · cases h

theorem mnemonic_of_ofLexeme {l : Lexeme} {m : Mnemonic} (h : Token.ofLexeme l = .instruction m) :
    Mnemonic.ofWord? l = some m := by
  unfold Token.ofLexeme at h
  split at h
  · cases h
  · cases h
  · cases h
  · unfold Token.ofNegated at h
    split at h <;> cases h
  · unfold Token.ofDollar at h
    split at h <;> cases h
  · exact mnemonic_of_ofWord h

theorem isWordChar_of_mem_toDigits {n : Nat} {c : Char} (h : c ∈ Nat.toDigits 16 n) : isWordChar c = true := by
  obtain ⟨d, hd, rfl⟩ := mem_toDigits (by decide) n c h
  have hall : ∀ d < 16, isWordChar d.digitChar = true := by decide
  exact hall d hd

theorem literal_toDigits {n : Nat} (hn : n < Literal.bound) :
    Literal.ofWord? ('0' :: 'x' :: Nat.toDigits 16 n) = some ⟨n, (Nat.toDigits 16 n).length⟩ := by
  simp [Literal.ofWord?, readNumeral?_toDigits, hn]

end MemorySetup
