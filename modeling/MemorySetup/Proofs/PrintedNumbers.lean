/-
Numbers that a report prints can be read as listing text.

A report writes numbers with the mark `0x`, upper-case digits and zeros on the left; listings are read with a lexer of
their own. Whatever the width, such a number is one token with the value and the digits that were written
(`tokens_hexadecimal`): its characters continue one word, the word is a literal, and leading zeros count as digits but
not towards the bound of literals.

In the line of a report that judges the heap base the number stands between words and punctuation. A blank on either
side keeps it apart (`tokens_baseLine`), so in the whole line the only literals are the number of the call and the base
(`literals_baseLine`). `printed_numbers_read_back` puts this together.
-/
import Mathlib.Data.Nat.Digits.Lemmas
import MemorySetup.Proofs.Lexing
import MemorySetup.Proofs.Lookback

namespace MemorySetup

open Text

/-! ## One number -/

/-- core writes as many digits as a number has, and one for zero -/
theorem length_toDigits_eq (n : Nat) : (Nat.toDigits 16 n).length = max 1 (Nat.digits 16 n).length := by
  refine eq_of_forall_ge_iff fun k => ?_
  rcases Nat.eq_zero_or_pos k with rfl | hk
  · simp [Nat.toDigits_ne_nil]
  · rw [Nat.length_toDigits_le_iff (by decide) hk, max_le_iff, Nat.digits_length_le_iff (by decide)]
    exact (and_iff_right hk).symm

/-- the digits that a number is printed with -/
theorem length_paddedNumeral_eq (width n : Nat) :
    (paddedNumeral 16 width n).length = max width (max 1 (Nat.digits 16 n).length) := by
  rw [length_paddedNumeral, numeral, List.length_map, length_toDigits_eq]

theorem isWordChar_of_mem_hexadecimal {width n : Nat} : ∀ c ∈ hexadecimal width n, isWordChar c = true := by
  have hall : ∀ d < 16, isWordChar d.digitChar.toUpper = true := by decide
  have hdigits : ∀ c ∈ paddedNumeral 16 width n, isWordChar c = true := by
    intro c hc
    obtain ⟨d, hd, rfl⟩ := mem_paddedNumeral (by decide) hc
    exact hall d hd
  exact List.forall_mem_cons.2 ⟨by decide, List.forall_mem_cons.2 ⟨by decide, hdigits⟩⟩

theorem literal_hexadecimal {n : Nat} (hn : n < Literal.bound) (width : Nat) :
    Literal.ofWord? (hexadecimal width n) = some ⟨n, (paddedNumeral 16 width n).length⟩ := by
  simp [hexadecimal, Literal.ofWord?, readNumeral?_paddedNumeral, hn]

/-- **A printed number is one token**, with the value and all the digits that were written -/
theorem tokens_hexadecimal {n : Nat} (hn : n < Literal.bound) (width : Nat) :
    tokens (hexadecimal width n) = [.immediate n (max width (max 1 (Nat.digits 16 n).length))] := by
  have hone : tokens (hexadecimal width n) = [Token.ofLexeme (hexadecimal width n)] :=
    tokens_lexeme (Or.inl (by decide)) (List.forall_mem_cons.1 isWordChar_of_mem_hexadecimal).2
  have hlexeme : Token.ofLexeme (hexadecimal width n) = Token.ofWord (hexadecimal width n) :=
    Token.ofLexeme_word _ (by decide)
  rw [hone, hlexeme, Token.ofWord, literal_hexadecimal hn, length_paddedNumeral_eq]

theorem toNat_lt_bound (value : UInt32) : value.toNat < Literal.bound :=
  value.toNat_lt.trans (by decide)

/-- an address has eight digits -/
theorem tokens_addressText (address : UInt32) : tokens (addressText address).toList = [.immediate address.toNat 8] := by
  have hdigits : (Nat.digits 16 address.toNat).length ≤ 8 :=
    (Nat.digits_length_le_iff (by decide) _).2 address.toNat_lt
  have height : max 8 (max 1 (Nat.digits 16 address.toNat).length) = 8 := by omega
  rw [addressText, hexText, String.toList_ofList, tokens_hexadecimal (toNat_lt_bound address), height]

/-! ## The line on the heap base -/

/-- the literals among tokens, with their digits -/
def literals (ts : List Token) : List (Int × Nat) :=
  ts.filterMap fun
    | .immediate value digits => some (value, digits)
    | _ => none

/-- what stands before the address in the line on the heap base -/
def baseLabel : String := "Computed dynamic heap base (0x3D): "

theorem toList_baseLine (base : UInt32) : (MemoryReport.baseLine base).toList =
    baseLabel.toList ++ ((addressText base).toList ++ (" ".toList ++ (MemoryReport.verdict base).toList)) := by
  have hline : MemoryReport.baseLine base = baseLabel ++ addressText base ++ " " ++ MemoryReport.verdict base := rfl
  simp only [hline, String.toList_append, List.append_assoc]

/-- the label is no comment and ends with a blank -/
theorem baseLabel_facts :
    (∀ c ∈ baseLabel.toList, startsComment c = false) ∧ baseLabel.toList.getLast? = some ' ' := by
  have hall : baseLabel.toList.all (fun c => !startsComment c) = true := by decide +kernel
  refine ⟨fun c hc => ?_, by decide +kernel⟩
  have hc := List.all_eq_true.1 hall c hc
  rwa [Bool.not_eq_true'] at hc

theorem tokens_baseLine (base : UInt32) : tokens (MemoryReport.baseLine base).toList =
    tokens baseLabel.toList ++ .immediate base.toNat 8 :: tokens (MemoryReport.verdict base).toList := by
  obtain ⟨hlabel, hlast⟩ := baseLabel_facts
  have haddress : ∀ c ∈ (addressText base).toList, startsComment c = false := by
    intro c hc
    rw [addressText, hexText, String.toList_ofList] at hc
    exact startsComment_of_isWordChar (Or.inl (isWordChar_of_mem_hexadecimal c hc))
  have hblank : isWordChar ' ' = false ∧ isSign ' ' = false := by decide
  have hseam : ∀ x ∈ baseLabel.toList.getLast?, ∀ y, glued x y = false := by
    intro x hx y
    rw [hlast] at hx
    obtain rfl := Option.some.inj hx
    simp [glued, hblank]
  rw [toList_baseLine, tokens_append hlabel fun x hx y _ => hseam x hx y,
    tokens_append_blank haddress (by decide) fun h => absurd h (by decide), tokens_addressText, List.singleton_append]

/-- in the line on the heap base, the number of the call and the base are the only literals -/
theorem literals_baseLine (base : UInt32) :
    literals (tokens (MemoryReport.baseLine base).toList) = [(0x3D, 2), ((base.toNat : Int), 8)] := by
  have hlabel : literals (tokens baseLabel.toList) = [(0x3D, 2)] := by decide +kernel
  have hverdict : literals (tokens (MemoryReport.verdict base).toList) = [] := by
    unfold MemoryReport.verdict
    split_ifs <;> decide +kernel
  have happend : ∀ before after : List Token, literals (before ++ .immediate base.toNat 8 :: after) =
      literals before ++ ((base.toNat : Int), 8) :: literals after := by
    intro before after
    simp [literals]
  rw [tokens_baseLine, happend, hlabel, hverdict]
  rfl

/-- **Printed numbers are read back.** A 32-bit value that is printed with at least `pad` digits is read as exactly one
token, a literal with that value, whose digits are as many as asked for or as many as the value has, if these are more;
zero has one. So for each `pad` different values are printed differently.
A report on a listing with a known heap base opens with a line that prints it. There the address by itself is read as
the base with eight digits, and in the line as a whole the only literals are the number of the call and the base. -/
theorem printed_numbers_read_back :
    (∀ (value : UInt32) (pad : Nat), tokens (hexText pad value.toNat).toList =
      [.immediate value.toNat (max pad (max 1 (Nat.digits 16 value.toNat).length))]) ∧
    (∀ pad : Nat, Function.Injective fun value : UInt32 => hexText pad value.toNat) ∧
    ∀ (text : List Char) (lookback : Nat) (base : UInt32),
      (MemoryReport.ofText text lookback).heapBase? = some base → ∃ first rest,
        (MemoryReport.ofText text lookback).lines = first :: rest ∧
        first = "Computed dynamic heap base (0x3D): " ++ addressText base ++ " " ++ MemoryReport.verdict base ∧
        tokens (addressText base).toList = [.immediate base.toNat 8] ∧
        literals (tokens first.toList) = [(0x3D, 2), ((base.toNat : Int), 8)] := by
  refine ⟨fun value pad => ?_, fun pad => ?_, fun text lookback base hbase => ?_⟩
  · rw [hexText, String.toList_ofList]
    exact tokens_hexadecimal (toNat_lt_bound value) pad
  · exact (hexText_injective pad).comp fun _ _ h => UInt32.toNat_inj.1 h
  · have hfirst := MemoryReport.head?_lines (MemoryReport.ofText text lookback)
    rw [hbase, Option.elim_some] at hfirst
    obtain ⟨rest, hlines⟩ := List.head?_eq_some_iff.1 hfirst
    exact ⟨_, rest, hlines, rfl, tokens_addressText base, literals_baseLine base⟩

/-- a heap setup whose base has zeros on the left -/
def lowBaseLines : List Line :=
  [['a', 'd', 'd', 'i', 'u', ' ', 'a', '0', ',', 'z', 'e', 'r', 'o', ',', '0', 'x', '3', 'd', '0'],
    prepareHeapLine, syscallWord]

/-- the base of that setup is printed with its zeros, and read back -/
theorem printed_numbers_read_back_lowBase :
    (MemoryReport.ofText (unlines lowBaseLines) 5).heapBase? = some 0x3D0 ∧ ∃ first rest,
      (MemoryReport.ofText (unlines lowBaseLines) 5).lines = first :: rest ∧
      first = "Computed dynamic heap base (0x3D): 0x000003D0 possibly BIOS/system region" ∧
      literals (tokens first.toList) = [(0x3D, 2), (0x3D0, 8)] := by
  have hbase : (MemoryReport.ofText (unlines lowBaseLines) 5).heapBase? = some 0x3D0 := by decide +kernel
  have hhead : (MemoryReport.ofText (unlines lowBaseLines) 5).lines.head? =
      some "Computed dynamic heap base (0x3D): 0x000003D0 possibly BIOS/system region" := by decide +kernel
  obtain ⟨first, rest, hlines, -, -, hliterals⟩ := printed_numbers_read_back.2.2 _ 5 _ hbase
  rw [hlines] at hhead
  exact ⟨hbase, first, rest, hlines, Option.some.inj hhead, hliterals⟩

end MemorySetup
