/-
A line is cut into its tokens without loss.

`IsCut` says what a cut of a line is, without an order of reading: pieces that make up the line to its comment one after
the other, each a blank or a lexeme (`IsLexeme`), and none of them with a word that goes on in the next. `Cuts` takes
the same lexemes from left to right and drops the blanks at once.

- `isPiece_iff`: blanks and lexemes are just the texts without a comment character that hold together (`glued`);
- `isCut_iff`: hence a line has one cut;
- `flatten_lexemes`: the lexemes are the code of the line without its blanks;
- `describes_ofLexeme`: a token says of its lexeme what it is, and keeps the text of a lexeme that is nothing else.
The main statement is `tokens_lossless`.
-/
import MemorySetup.Proofs.Grammar

namespace MemorySetup

open Text

/-! ## Cuts -/

/-- a run of word characters, a sign with the run after it, or any other single character -/
inductive IsLexeme : List Char → Prop
  | word {word : List Char} (hne : word ≠ []) (hword : ∀ c ∈ word, isWordChar c = true) : IsLexeme word
  | signed {sign : Char} {word : List Char} (hsign : isSign sign = true) (hword : ∀ c ∈ word, isWordChar c = true) :
      IsLexeme (sign :: word)
  | single {c : Char} (hcomment : startsComment c = false) (hblank : isBlank c = false) (hword : isWordChar c = false)
      (hsign : isSign c = false) : IsLexeme [c]

/-- a blank or a lexeme -/
def IsPiece (p : List Char) : Prop :=
  (∃ c, isBlank c = true ∧ p = [c]) ∨ IsLexeme p

/-- a piece ends in a word, or in a sign that takes a word, and a word character follows -/
def GoesOn (p q : List Char) : Prop :=
  ∃ x ∈ p.getLast?, ∃ y ∈ q.head?, (isWordChar x = true ∨ isSign x = true) ∧ isWordChar y = true

/-- the ways to cut a line, up to its comment, into blanks and lexemes that are as long as can be -/
structure IsCut (line : Line) (pieces : List (List Char)) : Prop where
  whole : ∃ comment, line = pieces.flatten ++ comment ∧ ∀ c ∈ comment.head?, startsComment c = true
  piece : ∀ p ∈ pieces, IsPiece p
  maximal : pieces.IsChain fun p q => ¬ GoesOn p q

/-! ## Pieces -/

section Pieces

variable {p : List Char}

/-- what holds of word characters and signs, and of other characters that are lexemes, holds all through a lexeme -/
theorem IsLexeme.forall_mem {P : Char → Prop} (h : IsLexeme p)
    (hrun : ∀ c, isWordChar c = true ∨ isSign c = true → P c)
    (hsingle : ∀ c, startsComment c = false → isBlank c = false → P c) : ∀ c ∈ p, P c := by
  cases h with
  | word _ hword => exact fun c hc => hrun c (Or.inl (hword c hc))
  | signed hsign hword =>
    exact List.forall_mem_cons.2 ⟨hrun _ (Or.inr hsign), fun c hc => hrun c (Or.inl (hword c hc))⟩
  | single hcomment hblank _ _ => exact List.forall_mem_singleton.2 (hsingle _ hcomment hblank)

theorem IsLexeme.not_isBlank (h : IsLexeme p) : ∀ c ∈ p, isBlank c = false :=
  h.forall_mem (fun _ => isBlank_of_isWordChar) fun _ _ hblank => hblank

theorem IsLexeme.not_startsComment (h : IsLexeme p) : ∀ c ∈ p, startsComment c = false :=
  h.forall_mem (fun _ => startsComment_of_isWordChar) fun _ hcomment _ => hcomment

theorem IsLexeme.ne_nil (h : IsLexeme p) : p ≠ [] := by
  cases h with
  | word hne _ => exact hne
  | signed _ _ => exact List.cons_ne_nil _ _
  | single _ _ _ _ => exact List.cons_ne_nil _ _

theorem IsLexeme.isChain (h : IsLexeme p) : p.IsChain fun x y => glued x y = true := by
  cases h with
  | word hne hword =>
    obtain ⟨c, rest, rfl⟩ := List.exists_cons_of_ne_nil hne
    obtain ⟨hc, hrest⟩ := List.forall_mem_cons.1 hword
    exact isChain_glued (Or.inl hc) hrest
  | signed hsign hword => exact isChain_glued (Or.inr hsign) hword
  | single _ _ _ _ => exact List.isChain_singleton _

/-- after its first character, a text that holds together has word characters only -/
theorem isWordChar_of_isChain {c : Char} {rest : List Char}
    (h : (c :: rest).IsChain fun x y => glued x y = true) : ∀ d ∈ rest, isWordChar d = true := by
  induction rest generalizing c with
  | nil => simp
  | cons d rest ih =>
    obtain ⟨hglued, hrest⟩ := List.isChain_cons_cons.1 h
    have hd : isWordChar d = true := (Bool.and_eq_true_iff.1 hglued).1
    exact List.forall_mem_cons.2 ⟨hd, ih hrest⟩

/-- **Pieces** are the texts without a comment character that hold together. -/
theorem isPiece_iff : IsPiece p ↔
    p ≠ [] ∧ (p.IsChain fun x y => glued x y = true) ∧ ∀ c ∈ p, startsComment c = false := by
  constructor
  · rintro (⟨c, hc, rfl⟩ | h)
    · exact ⟨List.cons_ne_nil c [], List.isChain_singleton c, by simpa using (idle_of_isBlank hc).comment⟩
    · exact ⟨h.ne_nil, h.isChain, h.not_startsComment⟩
  · rintro ⟨hne, hchain, hcomment⟩
    obtain ⟨c, rest, rfl⟩ := List.exists_cons_of_ne_nil hne
    have hrest := isWordChar_of_isChain hchain
    by_cases hword : isWordChar c = true
    · exact Or.inr (.word hne (List.forall_mem_cons.2 ⟨hword, hrest⟩))
    by_cases hsign : isSign c = true
    · exact Or.inr (.signed hsign hrest)
    -- what is no part of a word stands alone
    have halone : rest = [] := by
      cases rest with
      | nil => rfl
      | cons d rest =>
        have hglued := (List.isChain_cons_cons.1 hchain).1
        simp [glued, hword, hsign] at hglued
    subst halone
    by_cases hblank : isBlank c = true
    · exact Or.inl ⟨c, hblank, rfl⟩
    · exact Or.inr (.single (hcomment c List.mem_cons_self) (Bool.eq_false_iff.2 hblank) (Bool.eq_false_iff.2 hword)
        (Bool.eq_false_iff.2 hsign))

theorem IsPiece.ne_nil (h : IsPiece p) : p ≠ [] :=
  (isPiece_iff.1 h).1

end Pieces

/-! ## The one cut of a line -/

/-- between two texts a word goes on exactly if the neighbours hold together -/
theorem not_goesOn_iff {p q : List Char} (hp : p ≠ []) (hq : q ≠ []) :
    ¬ GoesOn p q ↔ ∃ hp hq, glued (p.getLast hp) (q.head hq) = false := by
  have hends : GoesOn p q ↔ glued (p.getLast hp) (q.head hq) = true := by
    simp [GoesOn, glued, List.getLast?_eq_some_getLast hp, List.head?_eq_some_head hq, and_comm]
  rw [hends, Bool.not_eq_true]
  constructor
  · intro h
    exact ⟨hp, hq, h⟩
  · rintro ⟨_, _, h⟩
    exact h

/-- up to its comment, a line is its code -/
theorem whole_iff {line body : Line} (hbody : ∀ c ∈ body, startsComment c = false) :
    (∃ comment, line = body ++ comment ∧ ∀ c ∈ comment.head?, startsComment c = true) ↔ body = code line := by
  constructor
  · rintro ⟨comment, rfl, hcomment⟩
    have hnone : code comment = [] := by
      cases comment with
      | nil => rfl
      | cons c rest => simp [code, hcomment c rfl]
    rw [code_append comment hbody, hnone, List.append_nil]
  · rintro rfl
    refine ⟨line.dropWhile fun c => !startsComment c, (List.takeWhile_append_dropWhile).symm, fun c hc => ?_⟩
    have hnot := List.head?_dropWhile_not (fun c => !startsComment c) line
    rw [hc] at hnot
    simpa using hnot

/-- **A line has one cut.** -/
theorem isCut_iff {line : Line} {pieces : List (List Char)} :
    IsCut line pieces ↔ pieces = (code line).splitBy glued := by
  rw [eq_comm, List.splitBy_eq_iff]
  constructor
  · rintro ⟨hwhole, hpiece, hmaximal⟩
    have hcomment : ∀ c ∈ pieces.flatten, startsComment c = false := by
      intro c hc
      obtain ⟨p, hp, hc⟩ := List.mem_flatten.1 hc
      exact (isPiece_iff.1 (hpiece p hp)).2.2 c hc
    refine ⟨((whole_iff hcomment).1 hwhole).symm, fun h => (hpiece [] h).ne_nil rfl,
      fun p hp => (isPiece_iff.1 (hpiece p hp)).2.1, ?_⟩
    refine hmaximal.imp_of_mem_imp fun p q hp hq hnot => ?_
    exact (not_goesOn_iff (hpiece p hp).ne_nil (hpiece q hq).ne_nil).1 hnot
  · rintro ⟨hcode, hne, hchain, hmaximal⟩
    have hcomment : ∀ c ∈ pieces.flatten, startsComment c = false := by
      intro c hc
      rw [← hcode] at hc
      simpa using List.all_eq_true.1 List.all_takeWhile c hc
    have hpiece : ∀ p ∈ pieces, IsPiece p := fun p hp => isPiece_iff.2
      ⟨fun h => hne (h ▸ hp), hchain p hp, fun c hc => hcomment c (List.mem_flatten.2 ⟨p, hp, hc⟩)⟩
    refine ⟨(whole_iff hcomment).2 hcode.symm, hpiece, ?_⟩
    refine hmaximal.imp_of_mem_imp fun p q hp hq hnot => ?_
    exact (not_goesOn_iff (hpiece p hp).ne_nil (hpiece q hq).ne_nil).2 hnot

/-! ## Lexemes -/

theorem isCut_splitBy (line : Line) : IsCut line ((code line).splitBy glued) :=
  isCut_iff.2 rfl

/-- the pieces that are not blank are lexemes -/
theorem isLexeme_of_mem_lexemes {line : Line} {l : Lexeme} (h : l ∈ lexemes line) : IsLexeme l := by
  obtain ⟨hpiece, hblank⟩ := List.mem_filter.1 h
  rcases (isCut_splitBy line).piece l hpiece with ⟨c, hc, rfl⟩ | hlexeme
  · simp [hc] at hblank
  · exact hlexeme

/-- without the blank pieces a text is a text without blanks -/
theorem flatten_filter_pieces {pieces : List (List Char)} (h : ∀ p ∈ pieces, IsPiece p) :
    (pieces.filter fun p => !p.all isBlank).flatten = pieces.flatten.filter fun c => !isBlank c := by
  induction pieces with
  | nil => rfl
  | cons p pieces ih =>
    obtain ⟨hp, hpieces⟩ := List.forall_mem_cons.1 h
    rw [List.flatten_cons, List.filter_append, ← ih hpieces]
    rcases hp with ⟨c, hc, rfl⟩ | hlexeme
    · simp [hc]
    · have hkept : (!p.all isBlank) = true := by
        obtain ⟨c, rest, rfl⟩ := List.exists_cons_of_ne_nil hlexeme.ne_nil
        simp [hlexeme.not_isBlank c List.mem_cons_self]
      have hwhole : p.filter (fun c => !isBlank c) = p :=
        List.filter_eq_self.2 fun c hc => by simp [hlexeme.not_isBlank c hc]
      rw [List.filter_cons, if_pos hkept, List.flatten_cons, hwhole]

/-- the lexemes of a line are its code without the blanks -/
theorem flatten_lexemes (line : Line) : (lexemes line).flatten = (code line).filter fun c => !isBlank c := by
  rw [lexemes, flatten_filter_pieces (isCut_splitBy line).piece, List.flatten_splitBy]

/-- a lexeme stands in its line as it is -/
theorem infix_of_mem_lexemes {line : Line} {l : Lexeme} (h : l ∈ lexemes line) : l <:+: line := by
  have hcode : l <:+: code line := by
    rw [← List.flatten_splitBy glued (code line)]
    exact List.infix_of_mem_flatten (List.mem_of_mem_filter h)
  exact hcode.trans (List.takeWhile_prefix _).isInfix

/-! ## Tokens -/

/-- a token says of its lexeme what it is, and one that says nothing keeps the text -/
structure Token.Describes (t : Token) (l : Lexeme) : Prop where
  instruction : ∀ m, t = .instruction m ↔ Spells l m
  register : ∀ r, t = .register r ↔ RegisterLexeme r l
  immediate : ∀ value digits, t = .immediate value digits ↔ NumberLexeme value digits l
  comma : t = .comma ↔ l = [',']
  openParen : t = .openParen ↔ l = ['(']
  closeParen : t = .closeParen ↔ l = [')']
  other : ∀ text, t = .other text → text = l

theorem describes_ofLexeme (l : Lexeme) : (Token.ofLexeme l).Describes l where
  instruction _ := ofLexeme_eq_instruction_iff
  register _ := ofLexeme_eq_register_iff
  immediate _ _ := ofLexeme_eq_immediate_iff
  comma := ofLexeme_eq_comma_iff
  openParen := by
    refine ⟨fun h => ?_, fun h => h ▸ rfl⟩
    cases readAs_of_ofLexeme h with | openParen h => exact h
  closeParen := by
    refine ⟨fun h => ?_, fun h => h ▸ rfl⟩
    cases readAs_of_ofLexeme h with | closeParen h => exact h
  other text h := by
    cases readAs_of_ofLexeme h with | other => rfl

/-- **The tokens of a line lose nothing.** There is exactly one way to cut a line, up to its comment, into blanks and
lexemes. The tokens are those of the pieces that are not blank, one for each and in this order; these pieces are
lexemes, and put together they are the line up to its comment without its blanks. Each token comes from its own lexeme
and says what that is; the number of a register is at most 31. -/
theorem tokens_lossless (line : Line) : ∃ pieces,
    (∀ other, IsCut line other ↔ other = pieces) ∧ pieces.flatten = code line ∧
    lexemes line = pieces.filter (fun p => !p.all isBlank) ∧ (∀ l ∈ lexemes line, IsLexeme l) ∧
    (lexemes line).flatten = (code line).filter (fun c => !isBlank c) ∧
    tokens line = (lexemes line).map Token.ofLexeme ∧ (∀ l ∈ lexemes line, (Token.ofLexeme l).Describes l) ∧
    ∀ r, .register r ∈ tokens line → r.val ≤ 31 := by
  refine ⟨(code line).splitBy glued, fun other => isCut_iff, List.flatten_splitBy glued (code line), rfl,
    fun l hl => isLexeme_of_mem_lexemes hl, flatten_lexemes line, rfl, fun l _ => describes_ofLexeme l, fun r _ => ?_⟩
  exact Nat.le_of_lt_succ r.isLt

-- a sign takes the word right after it, also an empty one, and a comment ends the line
example : lexemes ['a', '-', '-', '0', 'x', '1', ' ', '$', ',', '$', 'a', '0', '_', ';', 'b'] =
    [['a'], ['-'], ['-', '0', 'x', '1'], ['$'], [','], ['$', 'a', '0', '_']] := by
  decide

end MemorySetup
