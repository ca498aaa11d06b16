/-
How the lines of a listing are presented does not matter to what is found.

A line may be restyled (`Restyled`) in three ways, any number of times and in any order:
- the case of its letters is changed. The tokens are then the same up to the text of those that mean nothing
  (`tokens_lowercase`), since literals, registers and mnemonics are read in either case;
- white space is put around it, or taken away, as for trimming;
- its comment is added, removed or replaced, as long as neither comment mentions a kernel call. A comment character is
  no letter of that word, so no mention begins before it and ends after it (`mentionsSyscall_append`).
A restyled line has the same reading (`Restyled.ofLine_eq`), so restyled listings have the same outlines
(`outline_restyled`).
-/
import Mathlib.Data.List.Forall2
import Mathlib.Logic.Relation
import MemorySetup.Proofs.Lexing
import MemorySetup.Proofs.SameReadings

namespace MemorySetup

open Text

/-! ## Letter case -/

/-- the codes of the letters of ASCII in upper case -/
def capitalCodes : List Nat :=
  List.range' 0x41 26

theorem toLower_eq_self_or_mem_capitalCodes (c : Char) : c.toLower = c ∨ c.toNat ∈ capitalCodes := by
  unfold Char.toLower
  split_ifs with hc
  · right
    have hlo : 65 ≤ c.toNat := hc.1
    have hhi : c.toNat ≤ 90 := hc.2
    exact List.mem_range'_1.2 ⟨hlo, Nat.lt_succ_of_le hhi⟩
  · exact Or.inl rfl

/-- what is the same for the capitals and their small letters is the same in either case -/
theorem toLower_invariant {α : Type} (f : Char → α)
    (hf : ∀ n ∈ capitalCodes, f (Char.ofNat n).toLower = f (Char.ofNat n)) (c : Char) : f c.toLower = f c := by
  rcases toLower_eq_self_or_mem_capitalCodes c with hc | hc
  · rw [hc]
  · have hcode := hf c.toNat hc
    rwa [Char.ofNat_toNat] at hcode

@[simp] theorem toLower_toLower (c : Char) : c.toLower.toLower = c.toLower :=
  toLower_invariant Char.toLower (by decide) c

@[simp] theorem lowercase_lowercase (s : List Char) : lowercase (lowercase s) = lowercase s := by
  simp [lowercase]

section Classes

variable (c : Char)

@[simp] theorem isWordChar_toLower : isWordChar c.toLower = isWordChar c :=
  toLower_invariant isWordChar (by decide) c

@[simp] theorem isBlank_toLower : isBlank c.toLower = isBlank c :=
  toLower_invariant isBlank (by decide) c

@[simp] theorem startsComment_toLower : startsComment c.toLower = startsComment c :=
  toLower_invariant startsComment (by decide) c

@[simp] theorem isSign_toLower : isSign c.toLower = isSign c :=
  toLower_invariant isSign (by decide) c

@[simp] theorem digitValue?_toLower : digitValue? c.toLower = digitValue? c :=
  toLower_invariant digitValue? (by decide) c

end Classes

/-- a mark that is no letter is found in either case -/
theorem toLower_eq_iff {mark : Char}
    (hmark : ∀ n ∈ capitalCodes, (Char.ofNat n).toLower ≠ mark ∧ Char.ofNat n ≠ mark) {c : Char} :
    c.toLower = mark ↔ c = mark := by
  have h := toLower_invariant (fun c => decide (c = mark)) (fun n hn => by simp [hmark n hn]) c
  simpa using h

theorem readNumeral?_lowercase (b : Nat) (s : List Char) : readNumeral? b (lowercase s) = readNumeral? b s := by
  have hdigit : digitBelow? b ∘ Char.toLower = digitBelow? b := by
    funext c
    simp [digitBelow?]
  simp only [readNumeral?, digitValues?, lowercase, List.isEmpty_map, List.mapM_map, hdigit]

theorem literal_of_ne_zero {c : Char} (rest : List Char) (hc : c ≠ '0') : Literal.ofWord? (c :: rest) = none := by
  unfold Literal.ofWord?
  split
  · simp_all
  · rfl

theorem literal_lowercase (word : List Char) : Literal.ofWord? (lowercase word) = Literal.ofWord? word := by
  rcases word with _ | ⟨c, _ | ⟨mark, digits⟩⟩
  · rfl
  · simp [lowercase, Literal.ofWord?]
  · have hzero : c.toLower = '0' ↔ c = '0' := toLower_eq_iff (by decide)
    have hmark := toLower_invariant (fun m => decide (m = 'x' ∨ m = 'X')) (by decide) mark
    rw [decide_eq_decide] at hmark
    by_cases hc : c = '0'
    · subst hc
      have hdigits := readNumeral?_lowercase 16 digits
      simp only [lowercase] at hdigits
      simp [lowercase, Literal.ofWord?, hmark, hdigits]
    · rw [literal_of_ne_zero _ hc]
      exact literal_of_ne_zero _ fun h => hc (hzero.1 h)

theorem registerName_lowercase (word : List Char) : Register.ofName? (lowercase word) = Register.ofName? word := by
  rw [Register.ofName?, lowercase_lowercase, Register.ofName?]

theorem mnemonic_lowercase (word : List Char) : Mnemonic.ofWord? (lowercase word) = Mnemonic.ofWord? word := by
  rw [Mnemonic.ofWord?, lowercase_lowercase, Mnemonic.ofWord?]

namespace Token

/-- a token whose text, if it only stands for its text, is in lower case -/
def lowercase : Token → Token
  | other text => other (Text.lowercase text)
  | t => t

theorem isOther_lowercase {t : Token} : t.lowercase.IsOther ↔ t.IsOther := by
  cases t <;> simp [IsOther, lowercase]

theorem lowercase_of_not_isOther {t : Token} (h : ¬ t.IsOther) : t.lowercase = t := by
  cases t with
  | other text => exact absurd ⟨text, rfl⟩ h
  | _ => rfl

theorem ofWord_lowercase (word : List Char) : ofWord (Text.lowercase word) = (ofWord word).lowercase := by
  simp only [ofWord, literal_lowercase, registerName_lowercase, mnemonic_lowercase]
  repeat' split
  all_goals rfl

theorem ofNegated_lowercase (word : List Char) : ofNegated (Text.lowercase word) = (ofNegated word).lowercase := by
  simp only [ofNegated, literal_lowercase]
  split <;> rfl

theorem ofDollar_lowercase (word : List Char) : ofDollar (Text.lowercase word) = (ofDollar word).lowercase := by
  have hregister : Register.ofDollarWord? (Text.lowercase word) = Register.ofDollarWord? word := by
    rw [Register.ofDollarWord?, Register.ofDollarWord?, readNumeral?_lowercase, registerName_lowercase]
  simp only [ofDollar, hregister]
  split <;> rfl

/-- a lexeme of more than one character is a word unless it starts like a negated number or a register -/
theorem ofLexeme_cons_cons {c : Char} (next : Char) (rest : List Char) (hminus : c ≠ '-') (hdollar : c ≠ '$') :
    ofLexeme (c :: next :: rest) = ofWord (c :: next :: rest) := by
  unfold ofLexeme
  split <;> simp_all

theorem ofLexeme_lowercase (l : Lexeme) : ofLexeme (Text.lowercase l) = (ofLexeme l).lowercase := by
  rcases l with _ | ⟨c, rest⟩
  · rfl
  by_cases hminus : c = '-'
  · subst hminus
    exact ofNegated_lowercase rest
  by_cases hdollar : c = '$'
  · subst hdollar
    exact ofDollar_lowercase rest
  rcases rest with _ | ⟨next, rest⟩
  · by_cases hc : c ∈ marks
    · simp only [marks, List.mem_cons, List.not_mem_nil, hminus, hdollar, or_false] at hc
      rcases hc with rfl | rfl | rfl <;> rfl
    · have hlower : c.toLower ∉ marks := by
        have h := toLower_invariant (fun c => decide (c ∈ marks)) (by decide) c
        rw [decide_eq_decide] at h
        exact fun hmem => hc (h.1 hmem)
      rw [ofLexeme_word [] hc, ← ofWord_lowercase]
      exact ofLexeme_word [] hlower
  · have hminus' : c.toLower ≠ '-' := mt (toLower_eq_iff (by decide)).1 hminus
    have hdollar' : c.toLower ≠ '$' := mt (toLower_eq_iff (by decide)).1 hdollar
    rw [ofLexeme_cons_cons next rest hminus hdollar, ← ofWord_lowercase]
    exact ofLexeme_cons_cons next.toLower (rest.map Char.toLower) hminus' hdollar'

end Token

theorem splitBy_loop_map {α β : Type} (f : α → β) (r : β → β → Bool) (l : List α) (a : α) (group : List α)
    (groups : List (List α)) :
    List.splitBy.loop r (l.map f) (f a) (group.map f) (groups.map (List.map f)) =
      (List.splitBy.loop (fun x y => r (f x) (f y)) l a group groups).map (List.map f) := by
  induction l generalizing a group groups with
  | nil => simp [List.splitBy.loop]
  | cons b l ih =>
    simp only [List.map_cons, List.splitBy.loop]
    split
    · simpa using ih b (a :: group) groups
    · simpa using ih b [] ((a :: group).reverse :: groups)

theorem splitBy_map {α β : Type} (f : α → β) (r : β → β → Bool) (l : List α) :
    (l.map f).splitBy r = (l.splitBy fun x y => r (f x) (f y)).map (List.map f) := by
  cases l with
  | nil => rfl
  | cons a l => exact splitBy_loop_map f r l a [] []

theorem code_lowercase (line : Line) : code (lowercase line) = lowercase (code line) := by
  simp [code, lowercase, List.takeWhile_map, Function.comp_def]

theorem lexemes_lowercase (line : Line) : lexemes (lowercase line) = (lexemes line).map lowercase := by
  have hglued : (fun x y => glued x.toLower y.toLower) = glued := by
    funext x y
    simp [glued]
  rw [lexemes, code_lowercase, lowercase, splitBy_map, hglued, List.filter_map, lexemes]
  simp [Function.comp_def, lowercase]

/-- in either letter case a line has the same tokens, up to the text of those that mean nothing -/
theorem tokens_lowercase (line : Line) : tokens (lowercase line) = (tokens line).map Token.lowercase := by
  rw [tokens, tokens, lexemes_lowercase, List.map_map, List.map_map]
  exact List.map_congr_left fun l _ => Token.ofLexeme_lowercase l

theorem ofTokens?_lowercase (ts : List Token) : Statement.ofTokens? (ts.map Token.lowercase) =
    (Statement.ofTokens? ts).map fun s => ⟨s.mnemonic, s.operands.map Token.lowercase⟩ := by
  fun_induction Statement.ofTokens? ts with
  | case1 => rfl
  | case2 m rest => rfl
  | case3 t rest hne ih =>
    rw [List.map_cons, ← ih]
    refine Statement.ofTokens?.eq_3 _ _ fun m hm => hne m ?_
    rwa [Token.lowercase_of_not_isOther] at hm
    rw [← Token.isOther_lowercase, hm]
    simp [Token.IsOther]

theorem sameOperands_lowercase (ops : List Token) : SameOperands (ops.map Token.lowercase) ops := by
  have hself : ∀ l : List Token, (∀ t ∈ l, ¬ t.IsOther) → l.map Token.lowercase = l := fun l hl =>
    (List.map_congr_left fun t ht => Token.lowercase_of_not_isOther (hl t ht)).trans l.map_id
  intro wanted hw
  rw [List.prefix_map_iff]
  constructor
  · rintro ⟨l, hl, rfl⟩
    have hnone : ∀ t ∈ l, ¬ t.IsOther := fun t ht hother =>
      hw t.lowercase (List.mem_map_of_mem ht) (Token.isOther_lowercase.2 hother)
    rwa [hself l hnone]
  · intro h
    exact ⟨wanted, h, (hself wanted hw).symm⟩

theorem mentionsSyscall_lowercase (line : Line) : mentionsSyscall (lowercase line) = mentionsSyscall line := by
  rw [mentionsSyscall, lowercase_lowercase, mentionsSyscall]

/-- letter case does not change what a line says -/
theorem ofLine_lowercase (line : Line) : Reading.ofLine (lowercase line) = Reading.ofLine line := by
  refine ofLine_congr ?_ (mentionsSyscall_lowercase line)
  rw [tokens_lowercase, ofTokens?_lowercase]
  cases Statement.ofTokens? (tokens line) with
  | none => exact Option.Rel.none
  | some s => exact Option.Rel.some ⟨rfl, sameOperands_lowercase s.operands⟩

/-! ## Comments -/

/-- no text, or a comment that does not mention a kernel call -/
structure QuietComment (comment : List Char) : Prop where
  start : ∀ c ∈ comment.head?, startsComment c = true
  mention : mentionsSyscall comment = false

theorem QuietComment.code_append {comment : List Char} (h : QuietComment comment) {text : Line}
    (htext : ∀ c ∈ text, startsComment c = false) : code (text ++ comment) = text := by
  rw [MemorySetup.code_append comment htext]
  cases comment with
  | nil => exact List.append_nil text
  | cons c comment =>
    have hc : startsComment c = true := h.start c rfl
    simp [code, hc]

/-- a comment that does not mention a kernel call says nothing -/
theorem QuietComment.ofLine_append {comment : List Char} (h : QuietComment comment) {text : Line}
    (htext : ∀ c ∈ text, startsComment c = false) : Reading.ofLine (text ++ comment) = Reading.ofLine text := by
  have htokens : tokens (text ++ comment) = tokens text := by
    rw [tokens, tokens, lexemes, lexemes, h.code_append htext, code_eq_self htext]
  have hmention : mentionsSyscall (text ++ comment) = mentionsSyscall text := by
    have hseam : ∀ c ∈ comment.head?, c.toLower ∉ syscallWord := by
      intro c hc
      rcases startsComment_iff.1 (h.start c hc) with rfl | rfl <;> decide
    rw [mentionsSyscall_append (Or.inr hseam), h.mention, Bool.or_false]
  simp only [Reading.ofLine, Instruction.ofLine?, callNumber?, htokens, hmention]

/-! ## Restyled lines -/

/-- the ways to present a line otherwise -/
inductive Restyled : Line → Line → Prop
  | letterCase {line other : Line} (h : lowercase line = lowercase other) : Restyled line other
  | space (line : Line) {before after : List Char} (hb : ∀ c ∈ before, isWhitespace c)
      (ha : ∀ c ∈ after, isWhitespace c) : Restyled line (before ++ line ++ after)
  | comment {text : Line} {old new : List Char} (htext : ∀ c ∈ text, startsComment c = false)
      (hold : QuietComment old) (hnew : QuietComment new) : Restyled (text ++ old) (text ++ new)

theorem Restyled.ofLine_eq {line other : Line} (h : Restyled line other) :
    Reading.ofLine line = Reading.ofLine other := by
  cases h with
  | letterCase h => rw [← ofLine_lowercase line, h, ofLine_lowercase]
  | space _ hb ha => exact (ofLine_around hb ha line).symm
  | comment htext hold hnew => rw [hold.ofLine_append htext, hnew.ofLine_append htext]

/-- restyling a line any number of times, or undoing it, does not change what the line says -/
theorem ofLine_eq_of_restyled {line other : Line} (h : Relation.EqvGen Restyled line other) :
    Reading.ofLine line = Reading.ofLine other := by
  induction h with
  | rel _ _ h => exact h.ofLine_eq
  | refl _ => rfl
  | symm _ _ _ ih => exact ih.symm
  | trans _ _ _ _ _ ih₁ ih₂ => exact ih₁.trans ih₂

/-- **Presentation does not matter.** In two listings with as many lines, let each line be obtained from the one with
the same number by changing letter case, white space around it, and comments that do not mention a kernel call, in any
combination. Then a call is found in both or in neither, with the same line, registers and traces, and with a block of
the same bounds or none. -/
theorem outline_restyled {text other : List Char}
    (h : List.Forall₂ (Relation.EqvGen Restyled) (lines text) (lines other)) (target : CallNumber) (lookback : Nat) :
    (SetupCall.find? text target lookback).map SetupCall.outline =
      (SetupCall.find? other target lookback).map SetupCall.outline := by
  have hreadings : (lines text).map Reading.ofLine = (lines other).map Reading.ofLine := by
    rw [← List.forall₂_eq_eq_eq, List.forall₂_map_left_iff, List.forall₂_map_right_iff]
    exact h.imp fun _ _ => ofLine_eq_of_restyled
  rw [outline_find?, outline_find?, hreadings]

/-- a heap setup -/
def plainHeapLines : List Line :=
  [['l', 'u', 'i', ' ', 'a', '0', ',', '0', 'x', '6', 'a'],
    prepareHeapLine, syscallWord]

/-- the same heap setup in other letters, with a no-break space before it and with a comment -/
def restyledHeapLines : List Line :=
  [['\u00a0', 'L', 'U', 'I', ' ', 'A', '0', ',', '0', 'X', '6', 'A', '\r'],
    prepareHeapLine ++ [';', 'i', 'd'],
    ['S', 'y', 's', 'C', 'a', 'l', 'l']]

/-- the two have the same outline, with the same heap base -/
theorem outline_restyled_heap :
    List.Forall₂ (Relation.EqvGen Restyled) (lines (unlines plainHeapLines)) (lines (unlines restyledHeapLines)) ∧
    (SetupCall.find? (unlines restyledHeapLines) CallNumber.setupHeap 5).map
      (fun call => (call.outline.site, call.outline.registers.get .a0)) = some (2, some 0x006A0000) := by
  have hplain : lines (unlines plainHeapLines) = plainHeapLines := by decide +kernel
  have hrestyled : lines (unlines restyledHeapLines) = restyledHeapLines := by decide +kernel
  have hstyle : List.Forall₂ (Relation.EqvGen Restyled) (lines (unlines plainHeapLines))
      (lines (unlines restyledHeapLines)) := by
    rw [hplain, hrestyled]
    refine .cons (.trans _ ['L', 'U', 'I', ' ', 'A', '0', ',', '0', 'X', '6', 'A'] _ ?_ ?_) (.cons ?_ (.cons ?_ .nil))
    · exact .rel _ _ (.letterCase (by decide))
    · have hbefore : ∀ c ∈ ['\u00a0'], isWhitespace c := List.all_eq_true.1 (by decide)
      have hafter : ∀ c ∈ ['\r'], isWhitespace c := List.all_eq_true.1 (by decide)
      exact .rel _ _ (.space _ hbefore hafter)
    · have htext : ∀ c ∈ prepareHeapLine, startsComment c = false := by simp [prepareHeapLine, startsComment]
      have hold : QuietComment [] := ⟨by simp, by decide⟩
      have hnew : QuietComment [';', 'i', 'd'] := ⟨by simp [startsComment], by decide⟩
      exact .rel _ _ (.comment htext hold hnew)
    · exact .rel _ _ (.letterCase (by decide))
  have hfound : (SetupCall.find? (unlines plainHeapLines) CallNumber.setupHeap 5).map
      (fun call => (call.outline.site, call.outline.registers.get .a0)) = some (2, some 0x006A0000) := by
    decide +kernel
  have hsame := outline_restyled hstyle CallNumber.setupHeap 5
  refine ⟨hstyle, Eq.trans ?_ hfound⟩
  have hview := congrArg (Option.map fun outline : Outline => (outline.site, outline.registers.get .a0)) hsame.symm
  rwa [Option.map_map, Option.map_map] at hview

end MemorySetup
