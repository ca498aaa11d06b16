/-
Undamaged text is what core writes as UTF-8.

The reader goes byte by byte; core writes a character at once. The two meet in the bytes that follow the first of a
character, six bits each (`continuation`):
- a begun character is completed by some bytes (`Completes`), one step of the reader a byte; these are the continuation
  of a number, if the number has the bits so far on top and the next byte is in its range (`completes_iff`);
- a first byte has the topmost bits of a character of two, three or four bytes (`LeadBits`, `ofByte_cases`), and the
  range of the next byte keeps the number among those that need as many bytes and are characters (`hasMore_iff`). So the
  bytes that begin and complete a character are those that core writes (`begun_iff`, `HasMore.utf8EncodeChar`).

The main statement is `readUtf8?_eq_some_iff`: the reader accepts exactly the bytes of a text, and gives that text.
-/
import Mathlib.Algebra.Group.Nat.Defs
import Mathlib.Tactic.SplitIfs
import MemorySetup.Text.Utf8

namespace MemorySetup.Text

/-- the bytes of a text -/
def encodeUtf8 (s : List Char) : List UInt8 :=
  s.flatMap String.utf8EncodeChar

/-! ## Continuation bytes -/

/-- the last `k` bytes of the character with number `n` -/
def continuation : Nat → Nat → List UInt8
  | 0, _ => []
  | k + 1, n => UInt8.ofNat (0x80 + n / 64 ^ k % 64) :: continuation k n

namespace OpenChar

/-- a byte is in the range of the next one -/
def Admits (o : OpenChar) (b : UInt8) : Prop :=
  o.least ≤ b ∧ b ≤ o.greatest

/-- the bits after one more byte -/
def bitsWith (o : OpenChar) (b : UInt8) : Nat :=
  o.bits * 0x40 + (b.toNat - 0x80)

/-- the begun character after one more byte -/
def after (o : OpenChar) (b : UInt8) : OpenChar :=
  ⟨o.owed - 1, 0x80, 0xBF, o.bitsWith b⟩

/-- the bytes that complete a begun character, and the number of the character -/
inductive Completes : OpenChar → List UInt8 → Nat → Prop
  | last {o : OpenChar} {b : UInt8} (howed : o.owed ≤ 1) (hb : o.Admits b) : Completes o [b] (o.bitsWith b)
  | more {o : OpenChar} {b : UInt8} {bytes : List UInt8} {n : Nat} (howed : ¬ o.owed ≤ 1) (hb : o.Admits b)
      (h : Completes (o.after b) bytes n) : Completes o (b :: bytes) n

section Steps

variable {o : OpenChar} {b : UInt8} (rest : List UInt8)

theorem readUtf8From_last (howed : o.owed ≤ 1) (hb : o.Admits b) :
    readUtf8From (some o) (b :: rest) = some (Char.ofNat (o.bitsWith b)) :: readUtf8From none rest := by
  have hstep : takeByte (some o) b = ([some (Char.ofNat (o.bitsWith b))], none) := by
    rw [takeByte, if_pos (show o.least ≤ b ∧ b ≤ o.greatest from hb), take, if_pos howed]
    rfl
  rw [readUtf8From, hstep]
  rfl

theorem readUtf8From_more (howed : ¬ o.owed ≤ 1) (hb : o.Admits b) :
    readUtf8From (some o) (b :: rest) = readUtf8From (some (o.after b)) rest := by
  have hstep : takeByte (some o) b = ([], some (o.after b)) := by
    rw [takeByte, if_pos (show o.least ≤ b ∧ b ≤ o.greatest from hb), take, if_neg howed]
    rfl
  rw [readUtf8From, hstep]
  rfl

/-- a byte outside its range leaves a damaged spot -/
theorem readUtf8From_refused (hb : ¬ o.Admits b) : none ∈ readUtf8From (some o) (b :: rest) := by
  have hstep : takeByte (some o) b = (none :: (takeFirst b).1, (takeFirst b).2) := by
    rw [takeByte, if_neg (show ¬ (o.least ≤ b ∧ b ≤ o.greatest) from hb)]
  rw [readUtf8From, hstep]
  exact List.mem_cons_self

end Steps

/-- the bytes that complete a character are read as it -/
theorem Completes.readUtf8From {o : OpenChar} {bytes : List UInt8} {n : Nat} (h : o.Completes bytes n)
    (rest : List UInt8) :
    readUtf8From (some o) (bytes ++ rest) = some (Char.ofNat n) :: Text.readUtf8From none rest := by
  induction h with
  | last howed hb => exact readUtf8From_last rest howed hb
  | more howed hb _ ih =>
    rw [List.cons_append, readUtf8From_more _ howed hb]
    exact ih

/-- a begun character of undamaged text is completed -/
theorem completes_of_readUtf8From {o : OpenChar} {bytes : List UInt8} {s : List Char}
    (h : readUtf8From (some o) bytes = s.map some) : ∃ taken rest n s', bytes = taken ++ rest ∧ o.Completes taken n ∧
      s = Char.ofNat n :: s' ∧ readUtf8From none rest = s'.map some := by
  induction bytes generalizing o with
  | nil => cases s <;> simp [readUtf8From] at h
  | cons b bytes ih =>
    by_cases hb : o.Admits b
    · by_cases howed : o.owed ≤ 1
      · rw [readUtf8From_last bytes howed hb] at h
        cases s with
        | nil => cases h
        | cons c s =>
          obtain ⟨hc, hrest⟩ := List.cons.inj h
          exact ⟨[b], bytes, _, s, rfl, .last howed hb, by rw [Option.some.inj hc], hrest⟩
      · rw [readUtf8From_more bytes howed hb] at h
        obtain ⟨taken, rest, n, s', rfl, hn, hs, hrest⟩ := ih h
        exact ⟨b :: taken, rest, n, s', rfl, .more howed hb hn, hs, hrest⟩
    · have hdamaged := readUtf8From_refused bytes hb
      rw [h] at hdamaged
      simp at hdamaged

theorem toNat_continuation_byte (m : Nat) : (UInt8.ofNat (0x80 + m % 64)).toNat = 0x80 + m % 64 :=
  UInt8.toNat_ofNat_of_lt' (by unfold UInt8.size; omega)

/-- the next byte is from `0x80` to `0xBF`, or from a part of that -/
structure Ranged (o : OpenChar) : Prop where
  least : 0x80 ≤ o.least.toNat
  greatest : o.greatest.toNat ≤ 0xBF

theorem ranged_after (o : OpenChar) (b : UInt8) : (o.after b).Ranged :=
  ⟨Nat.le_refl 128, Nat.le_refl 191⟩

theorem admits_iff {o : OpenChar} {m : Nat} : o.Admits (UInt8.ofNat (0x80 + m % 64)) ↔
    o.least.toNat ≤ 0x80 + m % 64 ∧ 0x80 + m % 64 ≤ o.greatest.toNat := by
  rw [Admits, UInt8.le_iff_toNat_le, UInt8.le_iff_toNat_le, toNat_continuation_byte]

theorem admits_after (o : OpenChar) (b : UInt8) (m : Nat) : (o.after b).Admits (UInt8.ofNat (0x80 + m % 64)) := by
  rw [admits_iff]
  change 128 ≤ _ ∧ _ ≤ 191
  omega

/-- a byte in range is read off the bits with it -/
theorem Ranged.eq_bitsWith_iff {o : OpenChar} (h : o.Ranged) {b : UInt8} (hb : o.Admits b) {m : Nat} :
    m = o.bitsWith b ↔ m / 64 = o.bits ∧ b = UInt8.ofNat (0x80 + m % 64) := by
  have hlo : 0x80 ≤ b.toNat := Nat.le_trans h.least hb.1
  have hhi : b.toNat ≤ 0xBF := Nat.le_trans hb.2 h.greatest
  rw [← UInt8.toNat_inj, toNat_continuation_byte]
  unfold bitsWith
  constructor
  · intro hm
    exact ⟨by omega, by omega⟩
  · rintro ⟨hbits, hbyte⟩
    omega

/-- **A begun character is completed by the continuation bytes of a number**, if the number has the bits so far on top
and its next byte is in range. -/
theorem completes_iff {o : OpenChar} {k : Nat} (howed : o.owed = k + 1) (hrange : o.Ranged) {bytes : List UInt8}
    {n : Nat} : o.Completes bytes n ↔ bytes = continuation (k + 1) n ∧ n / 64 ^ (k + 1) = o.bits ∧
      o.least.toNat ≤ 0x80 + n / 64 ^ k % 64 ∧ 0x80 + n / 64 ^ k % 64 ≤ o.greatest.toNat := by
  simp only [← admits_iff]
  -- the bits so far are the number without the bits of the bytes that are owed: one byte less, six bits more
  have htop : ∀ n j, n / 64 ^ (j + 1) = n / 64 ^ j / 64 := fun n j => by rw [Nat.pow_succ, Nat.div_div_eq_div_mul]
  constructor
  · intro h
    induction h generalizing k with
    | @last o b hlast hb =>
      obtain rfl : k = 0 := by omega
      obtain ⟨hbits, hbyte⟩ := (hrange.eq_bitsWith_iff hb).1 rfl
      rw [htop, continuation, continuation, Nat.pow_zero, Nat.div_one, ← hbyte]
      exact ⟨rfl, hbits, hb⟩
    | @more o b bytes n hmore hb h ih =>
      obtain ⟨k, rfl⟩ : ∃ j, k = j + 1 := ⟨k - 1, by omega⟩
      have hnext : (o.after b).owed = k + 1 := by simp [after, howed]
      obtain ⟨hbytes, hbits, -⟩ := ih hnext (ranged_after o b)
      obtain ⟨hbits, hbyte⟩ := (hrange.eq_bitsWith_iff hb).1 hbits
      rw [continuation, htop n (k + 1), ← hbyte]
      exact ⟨by rw [hbytes], hbits, hb⟩
  · rintro ⟨rfl, hbits, hb⟩
    induction k generalizing o with
    | zero =>
      have hn := (hrange.eq_bitsWith_iff hb).2 ⟨by rwa [← htop], rfl⟩
      rw [Nat.pow_zero, Nat.div_one] at hn hb
      conv => arg 3; rw [hn]
      rw [continuation, continuation, Nat.pow_zero, Nat.div_one]
      exact .last (Nat.le_of_eq howed) hb
    | succ k ih =>
      rw [htop] at hbits
      have hbits := (hrange.eq_bitsWith_iff hb).2 ⟨hbits, rfl⟩
      refine .more (by omega) hb ?_
      exact ih (by simp [after, howed]) (ranged_after o _) hbits (admits_after o _ _)

end OpenChar

/-! ## First bytes -/

/-- the bits that mark the first byte before `k` others -/
def leadMark : Nat → Nat
  | 1 => 0xC0
  | 2 => 0xE0
  | _ => 0xF0

/-- `v` are the bits of a first byte before `k` others -/
def LeadBits (k v : Nat) : Prop :=
  k = 1 ∧ 2 ≤ v ∧ v < 32 ∨ k = 2 ∧ v < 16 ∨ k = 3 ∧ v < 5

/-- the least byte after a first byte: a lesser one would make a form that is too long -/
def leastNext (k v : Nat) : Nat :=
  if v = 0 then if k = 2 then 0xA0 else 0x90 else 0x80

/-- the greatest byte after a first byte: a greater one would make a surrogate or a number above all characters -/
def greatestNext (k v : Nat) : Nat :=
  if k = 2 ∧ v = 0xD then 0x9F else if k = 3 ∧ v = 4 then 0x8F else 0xBF

/-- the character that a first byte begins -/
def OpenChar.begun (k v : Nat) : OpenChar :=
  ⟨k, UInt8.ofNat (leastNext k v), UInt8.ofNat (greatestNext k v), v⟩

theorem ofByte_lead {k v : Nat} (h : LeadBits k v) :
    FirstByte.ofByte (UInt8.ofNat (leadMark k + v)) = .opens (OpenChar.begun k v) := by
  have htwo : ∀ v < 32, 2 ≤ v → FirstByte.ofByte (UInt8.ofNat (leadMark 1 + v)) = .opens (OpenChar.begun 1 v) := by
    decide
  have hthree : ∀ v < 16, FirstByte.ofByte (UInt8.ofNat (leadMark 2 + v)) = .opens (OpenChar.begun 2 v) := by decide
  have hfour : ∀ v < 5, FirstByte.ofByte (UInt8.ofNat (leadMark 3 + v)) = .opens (OpenChar.begun 3 v) := by decide
  rcases h with ⟨rfl, hlo, hhi⟩ | ⟨rfl, hv⟩ | ⟨rfl, hv⟩
  · exact htwo v hhi hlo
  · exact hthree v hv
  · exact hfour v hv

theorem ofByte_ascii {b : UInt8} (h : b.toNat < 0x80) : FirstByte.ofByte b = .whole (Char.ofNat b.toNat) := by
  rw [FirstByte.ofByte, if_pos (UInt8.lt_iff_toNat_lt.2 h)]

/-- a byte is a character, or begins one of several bytes, or is stray -/
theorem ofByte_cases (b : UInt8) : (b.toNat < 0x80 ∧ FirstByte.ofByte b = .whole (Char.ofNat b.toNat)) ∨
    FirstByte.ofByte b = .stray ∨ ∃ k v, LeadBits k v ∧ b = UInt8.ofNat (leadMark k + v) := by
  have hstray : ∀ m < 256, 0x80 ≤ m ∧ m < 0xC2 ∨ 0xF5 ≤ m → FirstByte.ofByte (UInt8.ofNat m) = .stray := by
    decide +kernel
  have hstray := hstray b.toNat b.toNat_lt
  rw [UInt8.ofNat_toNat] at hstray
  have hlead : ∀ k mark, leadMark k = mark → mark ≤ b.toNat → LeadBits k (b.toNat - mark) →
      ∃ k v, LeadBits k v ∧ b = UInt8.ofNat (leadMark k + v) := by
    rintro k _ rfl hle hv
    exact ⟨k, _, hv, by rw [Nat.add_sub_cancel' hle, UInt8.ofNat_toNat]⟩
  by_cases h80 : b.toNat < 0x80
  · exact Or.inl ⟨h80, ofByte_ascii h80⟩
  refine Or.inr ?_
  by_cases hC2 : b.toNat < 0xC2
  · exact Or.inl (hstray (Or.inl ⟨by omega, hC2⟩))
  by_cases hE0 : b.toNat < 0xE0
  · exact Or.inr (hlead 1 0xC0 rfl (by omega) (by unfold LeadBits; omega))
  by_cases hF0 : b.toNat < 0xF0
  · exact Or.inr (hlead 2 0xE0 rfl (by omega) (by unfold LeadBits; omega))
  by_cases hF5 : b.toNat < 0xF5
  · exact Or.inr (hlead 3 0xF0 rfl (by omega) (by unfold LeadBits; omega))
  · exact Or.inl (hstray (Or.inr (by omega)))

theorem next_bounds (k v : Nat) : 0x80 ≤ leastNext k v ∧ leastNext k v ≤ 0xBF ∧ 0x80 ≤ greatestNext k v ∧
    greatestNext k v ≤ 0xBF := by
  unfold leastNext greatestNext
  split_ifs <;> decide

/-- what completes a character after its first byte -/
theorem completes_begun_iff {k v : Nat} {bytes : List UInt8} {n : Nat} :
    (OpenChar.begun (k + 1) v).Completes bytes n ↔ bytes = continuation (k + 1) n ∧ n / 64 ^ (k + 1) = v ∧
      leastNext (k + 1) v ≤ 0x80 + n / 64 ^ k % 64 ∧ 0x80 + n / 64 ^ k % 64 ≤ greatestNext (k + 1) v := by
  obtain ⟨hlo, hlo', hhi', hhi⟩ := next_bounds (k + 1) v
  have hleast : (OpenChar.begun (k + 1) v).least.toNat = leastNext (k + 1) v :=
    UInt8.toNat_ofNat_of_lt' (by unfold UInt8.size; omega)
  have hgreatest : (OpenChar.begun (k + 1) v).greatest.toNat = greatestNext (k + 1) v :=
    UInt8.toNat_ofNat_of_lt' (by unfold UInt8.size; omega)
  have hrange : (OpenChar.begun (k + 1) v).Ranged := ⟨by rwa [hleast], by rwa [hgreatest]⟩
  rw [OpenChar.completes_iff rfl hrange, hleast, hgreatest]
  rfl

/-- the number of a character that has `k` bytes after the first -/
inductive HasMore (n : Nat) : Nat → Prop
  | one (hlo : 0x80 ≤ n) (hhi : n < 0x800) : HasMore n 1
  | two (hlo : 0x800 ≤ n) (hhi : n < 0x10000) (hsurrogate : n < 0xD800 ∨ 0xDFFF < n) : HasMore n 2
  | three (hlo : 0x10000 ≤ n) (hhi : n < 0x110000) : HasMore n 3

/-- the first byte and the range of the next say whether a number needs as many bytes and is a character -/
theorem hasMore_iff {k n : Nat} : HasMore n (k + 1) ↔ LeadBits (k + 1) (n / 64 ^ (k + 1)) ∧
    leastNext (k + 1) (n / 64 ^ (k + 1)) ≤ 0x80 + n / 64 ^ k % 64 ∧
    0x80 + n / 64 ^ k % 64 ≤ greatestNext (k + 1) (n / 64 ^ (k + 1)) := by
  unfold LeadBits leastNext greatestNext
  constructor
  · intro h
    cases h with
    | one hlo hhi => split_ifs <;> omega
    | two hlo hhi hsurrogate => split_ifs <;> omega
    | three hlo hhi => split_ifs <;> omega
  · rintro ⟨hlead, hlo, hhi⟩
    rcases hlead with ⟨hk, hv, hv'⟩ | ⟨hk, hv⟩ | ⟨hk, hv⟩
    · obtain rfl : k = 0 := by omega
      exact .one (by omega) (by omega)
    · obtain rfl : k = 1 := by omega
      split_ifs at hlo hhi <;> exact .two (by omega) (by omega) (by omega)
    · obtain rfl : k = 2 := by omega
      split_ifs at hlo hhi <;> exact .three (by omega) (by omega)

/-- **A character of several bytes is begun and completed by its bytes**, and no other bytes begin and complete it. -/
theorem begun_iff {b : UInt8} {bytes : List UInt8} {n : Nat} :
    (∃ o, FirstByte.ofByte b = .opens o ∧ o.Completes bytes n) ↔
      ∃ k, HasMore n k ∧ b = UInt8.ofNat (leadMark k + n / 64 ^ k) ∧ bytes = continuation k n := by
  constructor
  · rintro ⟨o, ho, hcompletes⟩
    rcases ofByte_cases b with ⟨-, hb⟩ | hb | ⟨k, v, hlead, rfl⟩
    · rw [hb] at ho
      cases ho
    · rw [hb] at ho
      cases ho
    · rw [ofByte_lead hlead] at ho
      cases ho
      obtain ⟨k, rfl⟩ : ∃ j, k = j + 1 := ⟨k - 1, by unfold LeadBits at hlead; omega⟩
      obtain ⟨rfl, rfl, hrange⟩ := completes_begun_iff.1 hcompletes
      exact ⟨k + 1, hasMore_iff.2 ⟨hlead, hrange⟩, rfl, rfl⟩
  · rintro ⟨k, hk, rfl, rfl⟩
    obtain ⟨k, rfl⟩ : ∃ j, k = j + 1 := by cases hk <;> exact ⟨_, rfl⟩
    obtain ⟨hlead, hrange⟩ := hasMore_iff.1 hk
    exact ⟨_, ofByte_lead hlead, completes_begun_iff.2 ⟨rfl, rfl, hrange⟩⟩

/-! ## Characters -/

/-- a character has one byte or several -/
theorem ascii_or_hasMore (c : Char) : c.toNat < 0x80 ∨ ∃ k, HasMore c.toNat k := by
  have hvalid : c.toNat < 0xD800 ∨ 0xDFFF < c.toNat ∧ c.toNat < 0x110000 := c.valid
  by_cases h1 : c.toNat < 0x80
  · exact Or.inl h1
  by_cases h2 : c.toNat < 0x800
  · exact Or.inr ⟨1, .one (by omega) h2⟩
  by_cases h3 : c.toNat < 0x10000
  · exact Or.inr ⟨2, .two (by omega) h3 (by omega)⟩
  · exact Or.inr ⟨3, .three (by omega) (by omega)⟩

theorem toNat_ofNat_of_isValidChar {n : Nat} (h : n.isValidChar) : (Char.ofNat n).toNat = n := by
  rw [Char.ofNat, dif_pos h]
  rfl

theorem HasMore.toNat_ofNat {n k : Nat} (h : HasMore n k) : (Char.ofNat n).toNat = n := by
  refine toNat_ofNat_of_isValidChar ?_
  change n < 0xD800 ∨ 0xDFFF < n ∧ n < 0x110000
  cases h <;> omega

theorem utf8EncodeChar_ascii {c : Char} (h : c.toNat < 0x80) : String.utf8EncodeChar c = [UInt8.ofNat c.toNat] := by
  have hle : c.val.toNat ≤ 0x7F := Nat.le_of_lt_succ h
  rw [String.utf8EncodeChar, if_pos hle]
  rfl

theorem HasMore.utf8EncodeChar {c : Char} {k : Nat} (h : HasMore c.toNat k) :
    String.utf8EncodeChar c = UInt8.ofNat (leadMark k + c.toNat / 64 ^ k) :: continuation k c.toNat := by
  unfold String.utf8EncodeChar
  change HasMore c.val.toNat k at h
  change _ = UInt8.ofNat (leadMark k + c.val.toNat / 64 ^ k) :: continuation k c.val.toNat
  generalize c.val.toNat = n at h
  cases h with
  | one hlo hhi =>
    rw [if_neg (by omega), if_pos (by omega)]
    simp only [continuation, leadMark, List.cons.injEq, and_true]
    exact ⟨congrArg UInt8.ofNat (by omega), congrArg UInt8.ofNat (by omega)⟩
  | two hlo hhi hsurrogate =>
    rw [if_neg (by omega), if_neg (by omega), if_pos (by omega)]
    simp only [continuation, leadMark, List.cons.injEq, and_true]
    exact ⟨congrArg UInt8.ofNat (by omega), congrArg UInt8.ofNat (by omega), congrArg UInt8.ofNat (by omega)⟩
  | three hlo hhi =>
    rw [if_neg (by omega), if_neg (by omega), if_neg (by omega)]
    simp only [continuation, leadMark, List.cons.injEq, and_true]
    exact ⟨congrArg UInt8.ofNat (by omega), congrArg UInt8.ofNat (by omega), congrArg UInt8.ofNat (by omega),
      congrArg UInt8.ofNat (by omega)⟩

section Reading

variable {b : UInt8} (rest : List UInt8)

theorem readUtf8From_whole {c : Char} (h : FirstByte.ofByte b = .whole c) :
    readUtf8From none (b :: rest) = some c :: readUtf8From none rest := by
  rw [readUtf8From, takeByte, takeFirst, h]
  rfl

theorem readUtf8From_opens {o : OpenChar} (h : FirstByte.ofByte b = .opens o) :
    readUtf8From none (b :: rest) = readUtf8From (some o) rest := by
  rw [readUtf8From, takeByte, takeFirst, h]
  rfl

theorem readUtf8From_stray (h : FirstByte.ofByte b = .stray) :
    readUtf8From none (b :: rest) = none :: readUtf8From none rest := by
  rw [readUtf8From, takeByte, takeFirst, h]
  rfl

end Reading

/-- the bytes of a character are read as that character -/
theorem readUtf8From_utf8EncodeChar (c : Char) (rest : List UInt8) :
    readUtf8From none (String.utf8EncodeChar c ++ rest) = some c :: readUtf8From none rest := by
  rcases ascii_or_hasMore c with hc | ⟨k, hk⟩
  · have hbyte : (UInt8.ofNat c.toNat).toNat = c.toNat := UInt8.toNat_ofNat_of_lt' (by unfold UInt8.size; omega)
    have hwhole : FirstByte.ofByte (UInt8.ofNat c.toNat) = .whole c := by
      rw [ofByte_ascii (by omega), hbyte, Char.ofNat_toNat]
    rw [utf8EncodeChar_ascii hc]
    exact readUtf8From_whole rest hwhole
  · obtain ⟨o, ho, hcompletes⟩ := begun_iff.2 ⟨k, hk, rfl, rfl⟩
    rw [hk.utf8EncodeChar, List.cons_append, readUtf8From_opens _ ho, hcompletes.readUtf8From, Char.ofNat_toNat]

/-- undamaged text starts with the bytes of a character -/
theorem exists_utf8EncodeChar {b : UInt8} {bytes : List UInt8} {s : List Char}
    (h : readUtf8From none (b :: bytes) = s.map some) : ∃ c rest s', b :: bytes = String.utf8EncodeChar c ++ rest ∧
      s = c :: s' ∧ readUtf8From none rest = s'.map some := by
  rcases ofByte_cases b with ⟨hb, hwhole⟩ | hstray | ⟨k, v, hlead, rfl⟩
  · rw [readUtf8From_whole bytes hwhole] at h
    obtain ⟨c, s, rfl⟩ : ∃ c s', s = c :: s' := List.exists_cons_of_ne_nil fun hnil => by simp [hnil] at h
    obtain ⟨hc, hrest⟩ := List.cons.inj h
    have hcode : c.toNat = b.toNat := by
      rw [← Option.some.inj hc]
      exact toNat_ofNat_of_isValidChar (Or.inl (by omega))
    refine ⟨c, bytes, s, ?_, rfl, hrest⟩
    rw [utf8EncodeChar_ascii (by omega), hcode, UInt8.ofNat_toNat]
    rfl
  · rw [readUtf8From_stray bytes hstray] at h
    cases s <;> cases h
  · have hopens := ofByte_lead hlead
    rw [readUtf8From_opens bytes hopens] at h
    obtain ⟨taken, rest, n, s', rfl, hcompletes, hs, hrest⟩ := OpenChar.completes_of_readUtf8From h
    obtain ⟨k, hk, hfirst, rfl⟩ := begun_iff.1 ⟨_, hopens, hcompletes⟩
    refine ⟨Char.ofNat n, rest, s', ?_, hs, hrest⟩
    have hmore : HasMore (Char.ofNat n).toNat k := by rwa [hk.toNat_ofNat]
    rw [hmore.utf8EncodeChar, hk.toNat_ofNat, hfirst]
    rfl

/-! ## Texts -/

theorem readUtf8_eq_map_some_iff {bytes : List UInt8} {s : List Char} :
    readUtf8 bytes = s.map some ↔ bytes = encodeUtf8 s := by
  unfold readUtf8 encodeUtf8
  constructor
  · intro h
    induction s generalizing bytes with
    | nil =>
      cases bytes with
      | nil => rfl
      | cons b bytes =>
        obtain ⟨c, rest, s', -, hs, -⟩ := exists_utf8EncodeChar h
        cases hs
    | cons c s ih =>
      cases bytes with
      | nil => cases h
      | cons b bytes =>
        obtain ⟨c', rest, s', hbytes, hs, hrest⟩ := exists_utf8EncodeChar h
        obtain ⟨rfl, rfl⟩ := List.cons.inj hs
        rw [hbytes, ih hrest, List.flatMap_cons]
  · rintro rfl
    induction s with
    | nil => rfl
    | cons c s ih => rw [List.flatMap_cons, readUtf8From_utf8EncodeChar, ih, List.map_cons]

theorem mapM_id_eq_some_iff {α : Type} {l : List (Option α)} {s : List α} : l.mapM id = some s ↔ l = s.map some := by
  induction l generalizing s with
  | nil => cases s <;> simp
  | cons a l ih =>
    simp only [List.mapM_cons, id_eq, Option.bind_eq_bind, Option.pure_def, Option.bind_eq_some_iff, Option.some.injEq,
      ih]
    constructor
    · rintro ⟨a, rfl, l, rfl, rfl⟩
      rfl
    · intro h
      cases s with
      | nil => cases h
      | cons a s =>
        obtain ⟨rfl, rfl⟩ := List.cons.inj h
        exact ⟨a, rfl, s, rfl, rfl⟩

/-- **Undamaged text is what core writes as UTF-8.** The reader accepts exactly the bytes of a text. -/
theorem readUtf8?_eq_some_iff {bytes : List UInt8} {s : List Char} :
    readUtf8? bytes = some s ↔ bytes = encodeUtf8 s := by
  rw [readUtf8?, mapM_id_eq_some_iff, readUtf8_eq_map_some_iff]

end MemorySetup.Text
