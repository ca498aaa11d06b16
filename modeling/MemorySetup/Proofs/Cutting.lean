/-
How a line is cut into lexemes.

`Cuts line ls` says it as a reader would, from left to right: a comment ends the line, blanks are skipped, a run of word
characters is taken as far as it goes, a minus or dollar sign is taken with the run of word characters right after it,
and any other character is taken alone. `lexemes` cuts between neighbours instead, all at once.

`cuts_iff`: every line is cut in exactly one way, and `lexemes` finds it.
-/
import MemorySetup.Proofs.Lexing

namespace MemorySetup

open Text

/-- the cuts of a line into lexemes, taken from left to right -/
inductive Cuts : Line → List Lexeme → Prop
  | done : Cuts [] []
  | comment {c : Char} {rest : Line} (hc : startsComment c = true) : Cuts (c :: rest) []
  | blank {c : Char} {rest : Line} {ls : List Lexeme} (hc : isBlank c = true) (h : Cuts rest ls) : Cuts (c :: rest) ls
  | word {word rest : Line} {ls : List Lexeme} (hne : word ≠ []) (hword : ∀ c ∈ word, isWordChar c = true)
      (hstop : ∀ c ∈ rest.head?, isWordChar c = false) (h : Cuts rest ls) : Cuts (word ++ rest) (word :: ls)
  | signed {sign : Char} {word rest : Line} {ls : List Lexeme} (hsign : isSign sign = true)
      (hword : ∀ c ∈ word, isWordChar c = true) (hstop : ∀ c ∈ rest.head?, isWordChar c = false) (h : Cuts rest ls) :
      Cuts (sign :: (word ++ rest)) ((sign :: word) :: ls)
  | single {c : Char} {rest : Line} {ls : List Lexeme} (hcomment : startsComment c = false) (hblank : isBlank c = false)
      (hword : isWordChar c = false) (hsign : isSign c = false) (h : Cuts rest ls) : Cuts (c :: rest) ([c] :: ls)

/-! ## Lexemes from left to right -/

theorem lexemes_comment {c : Char} (hc : startsComment c = true) (rest : Line) : lexemes (c :: rest) = [] := by
  simp [lexemes, code, hc]

/-- a character that is no part of a word is cut off -/
theorem lexemes_cons {c : Char} (hcomment : startsComment c = false) (hword : isWordChar c = false)
    (hsign : isSign c = false) (rest : Line) : lexemes (c :: rest) = lexemes [c] ++ lexemes rest := by
  refine lexemes_append (a := [c]) (by simpa using hcomment) fun x hx y _ => ?_
  obtain rfl : c = x := by simpa using hx
  simp [glued, hword, hsign]

theorem lexemes_singleton {c : Char} (hcomment : startsComment c = false) :
    lexemes [c] = if isBlank c then [] else [[c]] := by
  have hsplit : [c].splitBy glued = [[c]] := List.splitBy_of_isChain (List.cons_ne_nil c []) (List.isChain_singleton c)
  rw [lexemes, code_eq_self (by simpa using hcomment), hsplit]
  cases hc : isBlank c <;> simp [hc]

theorem lexemes_blank {c : Char} (hc : isBlank c = true) (rest : Line) : lexemes (c :: rest) = lexemes rest := by
  have hidle := idle_of_isBlank hc
  rw [lexemes_cons hidle.comment hidle.word hidle.sign, lexemes_singleton hidle.comment, if_pos hc, List.nil_append]

/-- a word, or a sign and a word, is cut off where no word character follows -/
theorem lexemes_word_append {c : Char} {word : List Char} (hc : isWordChar c = true ∨ isSign c = true)
    (hword : ∀ d ∈ word, isWordChar d = true) {rest : Line} (hstop : ∀ d ∈ rest.head?, isWordChar d = false) :
    lexemes (c :: (word ++ rest)) = (c :: word) :: lexemes rest := by
  have hcomment : ∀ d ∈ c :: word, startsComment d = false :=
    List.forall_mem_cons.2
      ⟨startsComment_of_isWordChar hc, fun d hd => startsComment_of_isWordChar (Or.inl (hword d hd))⟩
  rw [← List.cons_append, lexemes_append hcomment fun x _ y hy => by simp [glued, hstop y hy], lexemes_word hc hword]
  rfl

/-! ## The one way to cut a line -/

/-- whatever is cut off from left to right is what `lexemes` gives -/
theorem Cuts.eq_lexemes {line : Line} {ls : List Lexeme} (h : Cuts line ls) : ls = lexemes line := by
  induction h with
  | done => rfl
  | comment hc => rw [lexemes_comment hc]
  | blank hc _ ih => rw [lexemes_blank hc, ih]
  | @word word rest ls hne hword hstop _ ih =>
    obtain ⟨c, word, rfl⟩ := List.exists_cons_of_ne_nil hne
    obtain ⟨hc, hword⟩ := List.forall_mem_cons.1 hword
    rw [List.cons_append, lexemes_word_append (Or.inl hc) hword hstop, ih]
  | signed hsign hword hstop _ ih => rw [lexemes_word_append (Or.inr hsign) hword hstop, ih]
  | single hcomment hblank hword hsign _ ih =>
    rw [lexemes_cons hcomment hword hsign, lexemes_singleton hcomment, hblank, ih]
    rfl

/-- the rest of a line after a run of word characters goes on with another character -/
theorem isWordChar_head?_dropWhile (s : List Char) : ∀ c ∈ (s.dropWhile isWordChar).head?, isWordChar c = false := by
  intro c hc
  have hnot := List.head?_dropWhile_not isWordChar s
  rw [hc] at hnot
  simpa using hnot

/-- every line can be cut -/
theorem exists_cuts (line : Line) : ∃ ls, Cuts line ls := by
  induction hlength : line.length using Nat.strongRecOn generalizing line with
  | ind n ih =>
    cases line with
    | nil => exact ⟨[], .done⟩
    | cons c rest =>
      have hshort : rest.length < n := by simp only [List.length_cons] at hlength; omega
      by_cases hcomment : startsComment c = true
      · exact ⟨[], .comment hcomment⟩
      by_cases hblank : isBlank c = true
      · obtain ⟨ls, hls⟩ := ih rest.length hshort rest rfl
        exact ⟨ls, .blank hblank hls⟩
      by_cases hc : isWordChar c = true ∨ isSign c = true
      · -- the run of word characters after `c` is cut off with it
        have hafter : (rest.dropWhile isWordChar).length < n :=
          (List.dropWhile_suffix isWordChar).length_le.trans_lt hshort
        obtain ⟨ls, hls⟩ := ih _ hafter (rest.dropWhile isWordChar) rfl
        have hword : ∀ d ∈ rest.takeWhile isWordChar, isWordChar d = true :=
          List.all_eq_true.1 List.all_takeWhile
        have hstop := isWordChar_head?_dropWhile rest
        have hcut : c :: rest = (c :: rest.takeWhile isWordChar) ++ rest.dropWhile isWordChar := by
          rw [List.cons_append, List.takeWhile_append_dropWhile]
        rw [hcut]
        rcases hc with hc | hc
        · exact ⟨_, .word (List.cons_ne_nil c _) (List.forall_mem_cons.2 ⟨hc, hword⟩) hstop hls⟩
        · exact ⟨_, .signed hc hword hstop hls⟩
      · rw [not_or, Bool.not_eq_true, Bool.not_eq_true] at hc
        obtain ⟨ls, hls⟩ := ih rest.length hshort rest rfl
        exact ⟨_, .single (Bool.eq_false_iff.2 hcomment) (Bool.eq_false_iff.2 hblank) hc.1 hc.2 hls⟩

/-- **A line is cut in exactly one way.** -/
theorem cuts_iff {line : Line} {ls : List Lexeme} : Cuts line ls ↔ ls = lexemes line := by
  refine ⟨Cuts.eq_lexemes, fun h => ?_⟩
  obtain ⟨other, hother⟩ := exists_cuts line
  rw [h, ← hother.eq_lexemes]
  exact hother

end MemorySetup
