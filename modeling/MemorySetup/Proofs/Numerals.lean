/-
Numerals are read back.

Core writes a number with the fewest digits (`Nat.toDigits`), letters in lower case. In every base up to sixteen such a
numeral has only digits below the base (`mem_toDigits`), and reading it gives the number (`readNumeral?_toDigits`). So
does reading the form with letters in upper case and leading zeros in which numbers are shown
(`readNumeral?_paddedNumeral`); hence different addresses are shown differently (`hexText_injective`).
-/
import Mathlib.Algebra.Group.Nat.Defs
import MemorySetup.Text.Numeral

namespace MemorySetup.Text

variable {b : Nat}

/-- what holds of one digit, and of a numeral with a digit after it if it holds of the numeral, holds of all numerals -/
theorem toDigits_induction (hb : 1 < b) {motive : Nat → List Char → Prop} (digit : ∀ d < b, motive d [d.digitChar])
    (append : ∀ n d s, d < b → motive n s → motive (b * n + d) (s ++ [d.digitChar])) (n : Nat) :
    motive n (Nat.toDigits b n) := by
  induction n using Nat.strongRecOn with
  | ind n ih =>
    rcases Nat.lt_or_ge n b with hn | hn
    · rw [Nat.toDigits_of_lt_base hn]
      exact digit n hn
    · have hrest := ih (n / b) (Nat.div_lt_self (by omega) hb)
      have hstep := append (n / b) (n % b) _ (Nat.mod_lt n (by omega)) hrest
      rwa [Nat.div_add_mod, ← Nat.toDigits_of_base_le hb hn] at hstep

/-- a numeral consists of digits -/
theorem mem_toDigits (hb : 1 < b) (n : Nat) : ∀ c ∈ Nat.toDigits b n, ∃ d < b, c = d.digitChar := by
  refine toDigits_induction hb (motive := fun _ s => ∀ c ∈ s, ∃ d < b, c = d.digitChar) ?_ ?_ n
  · intro d hd c hc
    exact ⟨d, hd, List.mem_singleton.1 hc⟩
  · intro _ d s hd ih c hc
    rcases List.mem_append.1 hc with hc | hc
    · exact ih c hc
    · exact ⟨d, hd, List.mem_singleton.1 hc⟩

/-- digits that are written so that each can be read give the number again -/
theorem digitValues?_map_toDigits (hb : 1 < b) (hb' : b ≤ 16) (write : Char → Char)
    (hwrite : ∀ d < 16, digitValue? (write d.digitChar) = some d) (n : Nat) :
    ∃ ds, digitValues? b ((Nat.toDigits b n).map write) = some ds ∧ ofDigits b ds = n := by
  have hdigit : ∀ d < b, digitBelow? b (write d.digitChar) = some d := by
    intro d hd
    rw [digitBelow?, hwrite d (by omega)]
    simp [hd]
  refine toDigits_induction hb
    (motive := fun n s => ∃ ds, digitValues? b (s.map write) = some ds ∧ ofDigits b ds = n) ?_ ?_ n
  · intro d hd
    exact ⟨[d], by simp [digitValues?, hdigit d hd], by simp [ofDigits]⟩
  · rintro n d s hd ⟨ds, hds, rfl⟩
    refine ⟨ds ++ [d], ?_, by simp [ofDigits]⟩
    rw [digitValues?] at hds ⊢
    simp [List.mapM_append, hds, hdigit d hd]

/-- **A numeral is read back.** -/
theorem readNumeral?_toDigits (hb : 1 < b) (hb' : b ≤ 16) (n : Nat) : readNumeral? b (Nat.toDigits b n) = some n := by
  obtain ⟨ds, hds, hvalue⟩ := digitValues?_map_toDigits hb hb' id (by decide) n
  rw [List.map_id] at hds
  simp [readNumeral?, hds, hvalue, Nat.toDigits_ne_nil]

/-! ## Padded numerals -/

theorem digitValues?_zeros_append (hb : 0 < b) (count : Nat) (s : List Char) :
    digitValues? b (List.replicate count '0' ++ s) = (digitValues? b s).map (List.replicate count 0 ++ ·) := by
  have hzero : digitBelow? b '0' = some 0 := by
    have hvalue : digitValue? '0' = some 0 := by decide
    simp [digitBelow?, hvalue, hb]
  induction count with
  | zero => simp
  | succ count ih =>
    rw [digitValues?] at ih ⊢
    rw [List.replicate_succ, List.cons_append, List.mapM_cons, hzero, ih, digitValues?]
    cases List.mapM (digitBelow? b) s <;> rfl

theorem ofDigits_zeros_append (count : Nat) (ds : List Nat) :
    ofDigits b (List.replicate count 0 ++ ds) = ofDigits b ds := by
  induction count with
  | zero => rfl
  | succ count ih =>
    rw [← ih, List.replicate_succ, List.cons_append, ofDigits, List.foldl_cons]
    rfl

/-- zeros before a numeral do not count -/
theorem readNumeral?_zeros_append (hb : 0 < b) (count : Nat) {s : List Char} (hs : s ≠ []) :
    readNumeral? b (List.replicate count '0' ++ s) = readNumeral? b s := by
  have hne : (List.replicate count '0' ++ s).isEmpty = false := by simp [hs]
  rw [readNumeral?, readNumeral?, hne, List.isEmpty_eq_false_iff.2 hs, digitValues?_zeros_append hb, Option.map_map]
  simp only [Function.comp_def, ofDigits_zeros_append]

/-- **A padded numeral is read back**, with its letters in upper case and whatever zeros stand before it -/
theorem readNumeral?_paddedNumeral (hb : 1 < b) (hb' : b ≤ 16) (width n : Nat) :
    readNumeral? b (paddedNumeral b width n) = some n := by
  obtain ⟨ds, hds, hvalue⟩ := digitValues?_map_toDigits hb hb' Char.toUpper (by decide) n
  have hne : numeral b n ≠ [] := by simp [numeral, Nat.toDigits_ne_nil]
  rw [paddedNumeral, List.leftpad, readNumeral?_zeros_append (by omega) _ hne, readNumeral?,
    List.isEmpty_eq_false_iff.2 hne, numeral, hds]
  simp [hvalue]

/-- a padded numeral consists of digits, in upper case -/
theorem mem_paddedNumeral (hb : 1 < b) {width n : Nat} {c : Char} (h : c ∈ paddedNumeral b width n) :
    ∃ d < b, c = d.digitChar.toUpper := by
  rw [paddedNumeral, List.leftpad, numeral, List.mem_append] at h
  rcases h with h | h
  · exact ⟨0, by omega, List.eq_of_mem_replicate h⟩
  · obtain ⟨digit, hdigit, rfl⟩ := List.mem_map.1 h
    obtain ⟨d, hd, rfl⟩ := mem_toDigits hb n digit hdigit
    exact ⟨d, hd, rfl⟩

/-- a number that fits into the width is written in the width -/
theorem length_paddedNumeral_of_lt (hb : 1 < b) {width n : Nat} (hwidth : 0 < width) (h : n < b ^ width) :
    (paddedNumeral b width n).length = width := by
  have hdigits : (Nat.toDigits b n).length ≤ width := (Nat.length_toDigits_le_iff hb hwidth).2 h
  rw [length_paddedNumeral, numeral, List.length_map]
  omega

/-- different numbers are written differently -/
theorem hexText_injective (width : Nat) : Function.Injective (hexText width) := by
  intro n m h
  have hpadded : paddedNumeral 16 width n = paddedNumeral 16 width m := by
    simpa [hexadecimal] using String.ofList_injective h
  have hread := readNumeral?_paddedNumeral (b := 16) (by decide) (by decide) width n
  rw [hpadded, readNumeral?_paddedNumeral (by decide) (by decide)] at hread
  exact (Option.some.inj hread).symm

theorem length_hexadecimal {width n : Nat} (hwidth : 0 < width) (h : n < 16 ^ width) :
    (hexadecimal width n).length = width + 2 := by
  rw [hexadecimal, List.length_cons, List.length_cons, length_paddedNumeral_of_lt (by decide) hwidth h]

/-- decimal digits have no case, so a number is written as core writes it -/
theorem decimalText_eq (n : Nat) : decimalText n = toString n := by
  have hdigit : ∀ d < 10, d.digitChar.toUpper = d.digitChar := by decide
  have hdigits : (Nat.toDigits 10 n).map Char.toUpper = Nat.toDigits 10 n := by
    refine (List.map_congr_left fun c hc => ?_).trans (List.map_id _)
    obtain ⟨d, hd, rfl⟩ := mem_toDigits (by decide) n c hc
    exact hdigit d hd
  exact congrArg String.ofList hdigits

end MemorySetup.Text
