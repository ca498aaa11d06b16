/-
The names of disc executables are a regular language.

`nameExpression` is the form of a name: a region mark with its letters in either case, one or more digits, a point and
two digits. It says nothing of how a name is tested. Test and expression meet in the parts of a name (`NameParts`):
- `isName_iff_parts`: the test takes the mark off by its length and the digits as far as they go, and so finds the parts
  where they are;
- `mem_nameExpression_iff`: the expression matches exactly what has the parts.
The parts bound what can stand in a name. It is ASCII (`NameParts.ascii`), it has one point (`NameParts.count_point`),
and it does not go on as a longer name (`NameParts.not_append`). `isName_iff_expression` puts this together.
-/
import Mathlib.Computability.RegularExpressions
import MemorySetup.Executable.Name
import MemorySetup.Proofs.Presentation

namespace MemorySetup.Executable

open Text

/-! ## The expression -/

/-- a letter, given in upper case, in either case -/
def eitherCase (c : Char) : RegularExpression Char :=
  .char c + .char c.toLower

/-- a word, given in upper case, with each of its letters in either case -/
def anyCase (word : List Char) : RegularExpression Char :=
  (word.map eitherCase).prod

/-- one of the ten decimal digits -/
def digit : RegularExpression Char :=
  (['0', '1', '2', '3', '4', '5', '6', '7', '8', '9'].map .char).sum

/-- a region mark, one of two -/
def markExpression : RegularExpression Char :=
  anyCase ['S', 'L', 'U', 'S', '_'] + anyCase ['S', 'L', 'E', 'S', '_']

/-- one or more digits, a point, two digits -/
def serialExpression : RegularExpression Char :=
  (digit * digit.star) * (.char '.' * (digit * digit))

def nameExpression : RegularExpression Char :=
  markExpression * serialExpression

theorem toUpper_eq_self_or_mem_smallCodes (c : Char) : c.toUpper = c ∨ c.toNat ∈ List.range' 0x61 26 := by
  unfold Char.toUpper
  split_ifs with hc
  · right
    have hlo : 97 ≤ c.toNat := hc.1
    have hhi : c.toNat ≤ 122 := hc.2
    exact List.mem_range'_1.2 ⟨hlo, Nat.lt_succ_of_le hhi⟩
  · exact Or.inl rfl

/-- a capital is the upper case of itself and of its small letter, and of nothing else -/
theorem toUpper_eq_iff {c capital : Char} (h : capital.toUpper = capital) :
    c.toUpper = capital ↔ c = capital ∨ c = capital.toLower := by
  constructor
  · rintro rfl
    rcases toUpper_eq_self_or_mem_smallCodes c with hc | hc
    · exact Or.inl hc.symm
    · have hall : ∀ n ∈ List.range' 0x61 26, (Char.ofNat n).toUpper.toLower = Char.ofNat n := by decide
      have hback := hall c.toNat hc
      rw [Char.ofNat_toNat] at hback
      exact Or.inr hback.symm
  · rintro (rfl | rfl)
    · exact h
    · exact (toLower_invariant Char.toUpper (by decide) capital).trans h

/-! ## What the expression matches -/

section Matches

variable {s : List Char}

theorem mem_char_iff {c : Char} : s ∈ (RegularExpression.char c).matches' ↔ s = [c] :=
  Iff.rfl

theorem mem_mul_iff {p q : RegularExpression Char} :
    s ∈ (p * q).matches' ↔ ∃ a ∈ p.matches', ∃ b ∈ q.matches', a ++ b = s :=
  Language.mem_mul

theorem mem_add_iff {p q : RegularExpression Char} : s ∈ (p + q).matches' ↔ s ∈ p.matches' ∨ s ∈ q.matches' :=
  Iff.rfl

theorem mem_anyCase_iff {word : List Char} (hword : uppercase word = word) :
    s ∈ (anyCase word).matches' ↔ uppercase s = word := by
  induction word generalizing s with
  | nil => simp [anyCase, uppercase, RegularExpression.matches'_epsilon]
  | cons c word ih =>
    obtain ⟨hc, hrest⟩ := List.cons.inj hword
    have hsplit : s ∈ (anyCase (c :: word)).matches' ↔
        ∃ a ∈ (eitherCase c).matches', ∃ b ∈ (anyCase word).matches', a ++ b = s := mem_mul_iff
    rw [hsplit]
    simp only [eitherCase, mem_add_iff, mem_char_iff, ih hrest]
    constructor
    · rintro ⟨a, ha, b, rfl, rfl⟩
      rcases ha with rfl | rfl
      · exact congrArg (· :: uppercase b) hc
      · exact congrArg (· :: uppercase b) ((toUpper_eq_iff hc).2 (Or.inr rfl))
    · intro hs
      obtain ⟨d, rest, rfl, hd, hupper⟩ := List.map_eq_cons_iff.1 hs
      refine ⟨[d], ?_, rest, hupper, rfl⟩
      exact ((toUpper_eq_iff hc).1 hd).imp (congrArg fun x => [x]) (congrArg fun x => [x])

/-- the codes of the decimal digits -/
theorem isDigit_iff {c : Char} : c.isDigit = true ↔ 48 ≤ c.toNat ∧ c.toNat ≤ 57 := by
  simp only [Char.isDigit, Bool.and_eq_true, decide_eq_true_eq]
  exact Iff.rfl

theorem mem_digit_iff : s ∈ digit.matches' ↔ ∃ c, s = [c] ∧ c.isDigit = true := by
  have hsum : ∀ cs : List Char, s ∈ ((cs.map RegularExpression.char).sum).matches' ↔ ∃ c ∈ cs, s = [c] := by
    intro cs
    induction cs with
    | nil => simp [RegularExpression.matches'_zero]
    | cons c cs ih =>
      rw [List.map_cons, List.sum_cons, mem_add_iff, ih, mem_char_iff]
      simp
  have hdigit : ∀ c : Char, c ∈ ['0', '1', '2', '3', '4', '5', '6', '7', '8', '9'] ↔ c.isDigit = true := by
    intro c
    constructor
    · intro hc
      simp only [List.mem_cons, List.not_mem_nil, or_false] at hc
      rcases hc with rfl | rfl | rfl | rfl | rfl | rfl | rfl | rfl | rfl | rfl <;> rfl
    · intro hc
      have hall : ∀ n ∈ List.range' 48 10, Char.ofNat n ∈ ['0', '1', '2', '3', '4', '5', '6', '7', '8', '9'] := by
        decide
      have hcode := isDigit_iff.1 hc
      have hmem := hall c.toNat (List.mem_range'_1.2 (by omega))
      rwa [Char.ofNat_toNat] at hmem
  rw [digit, hsum]
  exact exists_congr fun c => by rw [hdigit, and_comm]

theorem mem_digits_iff : s ∈ digit.star.matches' ↔ ∀ c ∈ s, c.isDigit = true := by
  rw [RegularExpression.matches'_star, Language.mem_kstar]
  constructor
  · rintro ⟨pieces, rfl, hpieces⟩ c hc
    obtain ⟨piece, hpiece, hc⟩ := List.mem_flatten.1 hc
    obtain ⟨d, rfl, hd⟩ := mem_digit_iff.1 (hpieces piece hpiece)
    rwa [List.mem_singleton.1 hc]
  · intro hs
    refine ⟨s.map fun c => [c], ?_, fun piece hpiece => ?_⟩
    · exact (List.flatMap_singleton' s).symm
    · obtain ⟨c, hc, rfl⟩ := List.mem_map.1 hpiece
      exact mem_digit_iff.2 ⟨c, rfl, hs c hc⟩

end Matches

/-! ## The parts of a name -/

/-- a serial number: one or more digits, a point and two digits -/
def SerialParts (s : List Char) : Prop :=
  ∃ digits a b, s = digits ++ ['.', a, b] ∧ digits ≠ [] ∧ (∀ c ∈ digits, c.isDigit = true) ∧
    a.isDigit = true ∧ b.isDigit = true

/-- a name: a region mark in any letter case, and a serial number -/
def NameParts (name : List Char) : Prop :=
  ∃ mark serial, name = mark ++ serial ∧ uppercase mark ∈ regionMarks ∧ SerialParts serial

/-- the digits before the point are found as a run of digits -/
theorem span_serial {digits : List Char} (h : ∀ c ∈ digits, c.isDigit = true) (rest : List Char) :
    (digits ++ '.' :: rest).takeWhile Char.isDigit = digits ∧
      (digits ++ '.' :: rest).dropWhile Char.isDigit = '.' :: rest := by
  rw [List.takeWhile_append_of_pos h, List.dropWhile_append_of_pos h]
  simp [show Char.isDigit '.' = false by decide]

theorem isSuffix_iff {s : List Char} :
    isSuffix s = true ↔ ∃ a b, s = ['.', a, b] ∧ a.isDigit = true ∧ b.isDigit = true := by
  unfold isSuffix
  split
  · simp
  · rename_i hne
    simp only [Bool.false_eq_true, false_iff]
    rintro ⟨a, b, rfl, -⟩
    exact hne a b rfl

theorem isSerial_iff {s : List Char} : isSerial s = true ↔ SerialParts s := by
  simp only [isSerial, Bool.and_eq_true, Bool.not_eq_true', List.isEmpty_eq_false_iff, isSuffix_iff]
  constructor
  · rintro ⟨hne, a, b, hrest, ha, hb⟩
    refine ⟨s.takeWhile Char.isDigit, a, b, ?_, hne, fun c hc => List.all_eq_true.1 List.all_takeWhile c hc, ha, hb⟩
    rw [← hrest, List.takeWhile_append_dropWhile]
  · rintro ⟨digits, a, b, rfl, hne, hdigits, ha, hb⟩
    obtain ⟨htake, hdrop⟩ := span_serial hdigits [a, b]
    rw [htake, hdrop]
    exact ⟨hne, a, b, rfl, ha, hb⟩

theorem length_of_uppercase_mem {mark : List Char} (h : uppercase mark ∈ regionMarks) : mark.length = markLength := by
  have hall : ∀ m ∈ regionMarks, m.length = markLength := by simp [regionMarks, markLength]
  have hlength := hall _ h
  rwa [uppercase, List.length_map] at hlength

theorem isName_iff_parts {name : List Char} : isName name = true ↔ NameParts name := by
  rw [isName, Bool.and_eq_true, List.contains_iff_mem, isSerial_iff]
  constructor
  · rintro ⟨hmark, hserial⟩
    exact ⟨_, _, (List.take_append_drop markLength name).symm, hmark, hserial⟩
  · rintro ⟨mark, serial, rfl, hmark, hserial⟩
    have hlength := length_of_uppercase_mem hmark
    rw [List.take_left' hlength, List.drop_left' hlength]
    exact ⟨hmark, hserial⟩

theorem mem_markExpression_iff {mark : List Char} : mark ∈ markExpression.matches' ↔ uppercase mark ∈ regionMarks := by
  rw [markExpression, mem_add_iff, mem_anyCase_iff (by decide), mem_anyCase_iff (by decide), regionMarks]
  simp

theorem mem_serialExpression_iff {serial : List Char} : serial ∈ serialExpression.matches' ↔ SerialParts serial := by
  simp only [serialExpression, mem_mul_iff, mem_digits_iff, mem_digit_iff, mem_char_iff]
  constructor
  · rintro ⟨_, ⟨_, ⟨c, rfl, hc⟩, rest, hrest, rfl⟩, _, ⟨_, rfl, _, ⟨_, ⟨a, rfl, ha⟩, _, ⟨b, rfl, hb⟩, rfl⟩, rfl⟩, rfl⟩
    exact ⟨c :: rest, a, b, rfl, List.cons_ne_nil c rest, List.forall_mem_cons.2 ⟨hc, hrest⟩, ha, hb⟩
  · rintro ⟨digits, a, b, rfl, hne, hdigits, ha, hb⟩
    obtain ⟨c, rest, rfl⟩ := List.exists_cons_of_ne_nil hne
    obtain ⟨hc, hrest⟩ := List.forall_mem_cons.1 hdigits
    exact ⟨c :: rest, ⟨[c], ⟨c, rfl, hc⟩, rest, hrest, rfl⟩, ['.', a, b],
      ⟨['.'], rfl, [a, b], ⟨[a], ⟨a, rfl, ha⟩, [b], ⟨b, rfl, hb⟩, rfl⟩, rfl⟩, rfl⟩

theorem mem_nameExpression_iff {name : List Char} : name ∈ nameExpression.matches' ↔ NameParts name := by
  rw [nameExpression, mem_mul_iff]
  simp only [mem_markExpression_iff, mem_serialExpression_iff]
  constructor
  · rintro ⟨mark, hmark, serial, hserial, rfl⟩
    exact ⟨mark, serial, rfl, hmark, hserial⟩
  · rintro ⟨mark, serial, rfl, hmark, hserial⟩
    exact ⟨mark, hmark, serial, hserial, rfl⟩

/-! ## Letter case -/

/-- a text of digits and points is the lower case of itself only -/
theorem lowercase_eq_iff {s t : List Char} (ht : ∀ c ∈ t, c.isDigit = true ∨ c = '.') : lowercase s = t ↔ s = t := by
  have hcapital : ∀ n ∈ capitalCodes, (Char.ofNat n).toLower.isDigit = false ∧ (Char.ofNat n).isDigit = false ∧
      (Char.ofNat n).toLower ≠ '.' ∧ Char.ofNat n ≠ '.' := by decide
  have hchar : ∀ c, c.isDigit = true ∨ c = '.' → ∀ d : Char, d.toLower = c ↔ d = c := by
    intro c hc d
    refine toLower_eq_iff fun n hn => ?_
    obtain ⟨hlower, hupper, hlowerPoint, hupperPoint⟩ := hcapital n hn
    rcases hc with hc | rfl
    · constructor
      · rintro rfl
        exact Bool.false_ne_true (hlower.symm.trans hc)
      · rintro rfl
        exact Bool.false_ne_true (hupper.symm.trans hc)
    · exact ⟨hlowerPoint, hupperPoint⟩
  induction t generalizing s with
  | nil => exact List.map_eq_nil_iff
  | cons c t ih =>
    obtain ⟨hc, hrest⟩ := List.forall_mem_cons.1 ht
    cases s with
    | nil => simp [lowercase]
    | cons d s =>
      have hcons : lowercase (d :: s) = d.toLower :: lowercase s := rfl
      rw [hcons, List.cons.injEq, List.cons.injEq]
      exact and_congr (hchar c hc d) (ih hrest)

theorem serialParts_lowercase_iff {s : List Char} : SerialParts (lowercase s) ↔ SerialParts s := by
  refine exists_congr fun digits => exists_congr fun a => exists_congr fun b => and_congr_left ?_
  rintro ⟨-, hdigits, ha, hb⟩
  refine lowercase_eq_iff fun c hc => ?_
  rcases List.mem_append.1 hc with hc | hc
  · exact Or.inl (hdigits c hc)
  · simp only [List.mem_cons, List.not_mem_nil, or_false] at hc
    rcases hc with rfl | rfl | rfl
    · exact Or.inr rfl
    · exact Or.inl ha
    · exact Or.inl hb

theorem isName_lowercase (name : List Char) : isName (lowercase name) = isName name := by
  have hmark : uppercase ((lowercase name).take markLength) = uppercase (name.take markLength) := by
    have hupper : Char.toUpper ∘ Char.toLower = Char.toUpper := funext (toLower_invariant Char.toUpper (by decide))
    rw [uppercase, lowercase, ← List.map_take, List.map_map, hupper]
    rfl
  have hserial : isSerial ((lowercase name).drop markLength) = isSerial (name.drop markLength) := by
    rw [Bool.eq_iff_iff, isSerial_iff, isSerial_iff, lowercase, ← List.map_drop]
    exact serialParts_lowercase_iff
  rw [isName, isName, hmark, hserial]

/-! ## What can stand in a name -/

namespace NameParts

variable {name : List Char}

theorem ascii (h : NameParts name) : ∀ c ∈ name, c.toNat < 128 := by
  obtain ⟨mark, _, rfl, hmark, digits, a, b, rfl, -, hdigits, ha, hb⟩ := h
  have hdigit : ∀ {c : Char}, c.isDigit = true → c.toNat < 128 := by
    intro c hc
    have := isDigit_iff.1 hc
    omega
  intro c hc
  simp only [List.mem_append, List.mem_cons, List.not_mem_nil, or_false] at hc
  rcases hc with hc | hc | rfl | rfl | rfl
  · have hall : ∀ m ∈ regionMarks, ∀ d ∈ m, d.toNat < 128 := by simp [regionMarks]
    have hupper := hall _ hmark c.toUpper (List.mem_map_of_mem hc)
    rcases toUpper_eq_self_or_mem_smallCodes c with heq | hsmall
    · rwa [heq] at hupper
    · have := List.mem_range'_1.1 hsmall
      omega
  · exact hdigit (hdigits c hc)
  · decide
  · exact hdigit ha
  · exact hdigit hb

theorem count_point (h : NameParts name) : name.count '.' = 1 := by
  obtain ⟨mark, _, rfl, hmark, digits, a, b, rfl, -, hdigits, ha, hb⟩ := h
  have hdigit : ∀ {c : Char}, c.isDigit = true → c ≠ '.' := by
    rintro c hc rfl
    revert hc
    decide
  have hmarks : ∀ m ∈ regionMarks, '.' ∉ m := by simp [regionMarks]
  have hnoneMark : '.' ∉ mark := fun hmem => hmarks _ hmark (List.mem_map_of_mem (f := Char.toUpper) hmem)
  have hnoneDigits : '.' ∉ digits := fun hmem => hdigit (hdigits '.' hmem) rfl
  rw [List.count_append, List.count_append, List.count_eq_zero.2 hnoneMark, List.count_eq_zero.2 hnoneDigits]
  simp [hdigit ha, hdigit hb]

/-- a name does not go on -/
theorem not_append (h : NameParts name) (c : Char) (rest : List Char) : ¬ NameParts (name ++ c :: rest) := by
  rintro ⟨mark', _, heq, hmark', digits', a', b', rfl, -, hdigits', -, -⟩
  obtain ⟨mark, _, rfl, hmark, digits, a, b, rfl, -, hdigits, -, -⟩ := h
  have hlength : mark.length = mark'.length :=
    (length_of_uppercase_mem hmark).trans (length_of_uppercase_mem hmark').symm
  rw [List.append_assoc] at heq
  have hserial := (List.append_inj heq hlength).2
  -- the two serial numbers have the same digits before the point, so the second is as long as the first
  rw [List.append_assoc] at hserial
  have hsuffix : '.' :: ([a, b] ++ c :: rest) = '.' :: [a', b'] := by
    have hdrop := congrArg (List.dropWhile Char.isDigit) hserial
    rwa [show ['.', a, b] ++ c :: rest = '.' :: ([a, b] ++ c :: rest) from rfl, (span_serial hdigits _).2,
      (span_serial hdigits' [a', b']).2] at hdrop
  have := congrArg List.length hsuffix
  simp at this

end NameParts

/-- **Names are exactly what the expression matches**: one of two region marks in any mix of letter cases, one or more
digits, one point, two digits, and nothing else. So the case of letters does not matter to the test, and it refuses every
text with a character outside ASCII, with a second point, or with anything after a name. -/
theorem isName_iff_expression (name : List Char) :
    (isName name = true ↔ name ∈ nameExpression.matches') ∧
    (∀ other, lowercase other = lowercase name → isName other = isName name) ∧
    ((∃ c ∈ name, 128 ≤ c.toNat) → isName name = false) ∧
    (2 ≤ name.count '.' → isName name = false) ∧
    ∀ c rest, isName name = true → isName (name ++ c :: rest) = false := by
  refine ⟨isName_iff_parts.trans mem_nameExpression_iff.symm, fun other hother => ?_, ?_, fun hcount => ?_, ?_⟩
  · rw [← isName_lowercase other, hother, isName_lowercase]
  · rintro ⟨c, hc, hcode⟩
    refine Bool.eq_false_iff.2 fun hname => ?_
    have := (isName_iff_parts.1 hname).ascii c hc
    omega
  · refine Bool.eq_false_iff.2 fun hname => ?_
    have := (isName_iff_parts.1 hname).count_point
    omega
  · intro c rest hname
    exact Bool.eq_false_iff.2 fun hlonger => (isName_iff_parts.1 hname).not_append c rest (isName_iff_parts.1 hlonger)

/-- a name in mixed letter case -/
def mixedCaseName : List Char :=
  ['s', 'L', 'e', 'S', '_', '0', '1', '2', '3', '.', '4', '5']

/-- that name matches, as does the same name in upper case; with a letter after it, with a second point, or with a digit
of another script in it, it is refused -/
theorem isName_iff_expression_mixedCase :
    mixedCaseName ∈ nameExpression.matches' ∧ isName (uppercase mixedCaseName) = true ∧
      isName (mixedCaseName ++ ['a']) = false ∧ isName (mixedCaseName ++ ['.', '4', '5']) = false ∧
      isName (mixedCaseName.set 6 '\u0661') = false := by
  have hname : isName mixedCaseName = true := by decide
  obtain ⟨hiff, hcase, -, -, hlonger⟩ := isName_iff_expression mixedCaseName
  refine ⟨hiff.1 hname, (hcase _ (by decide)).trans hname, hlonger 'a' [] hname, ?_, ?_⟩
  · exact (isName_iff_expression _).2.2.2.1 (by decide)
  · exact (isName_iff_expression _).2.2.1 ⟨'\u0661', by decide, by decide⟩

end MemorySetup.Executable
