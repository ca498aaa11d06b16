/-
The halves that a trace captures, and the address in the register.

A trace is taken backwards from a call, over the lines that are seen from there (`SeenFrom`), and each half is that of
the latest line of its form (`CapturedAt`, `findSome?_window_eq_some_iff`). The register is followed forwards, from the
first line of the listing on.

Take the line on which the upper half was captured. If no instruction loads the register after it, the register holds
the upper half alone (`get_of_upper`); but the halves are captured independently of each other, so an addition that
stands before the upper half is captured as well if it is seen (`lower?_capture_eq_none_iff`). If only one instruction
loads the register, and adds to it in place, that is the lower half (`lower?_capture_of_only`), and the register holds
the sum (`get_of_upper_lower`).
-/
import MemorySetup.Proofs.BlockBounds
import MemorySetup.Proofs.Loads

namespace MemorySetup

open Text

/-! ## What a trace captures -/

/-- line `j` is seen from a call at line `site`: it is at most `lookback` lines before it, and neither line `j` nor any
line between mentions a kernel call -/
def SeenFrom (ls : List Line) (site lookback j : Nat) : Prop :=
  j < site ∧ site ≤ j + lookback ∧ ∀ k, j ≤ k → k < site → ¬ MentionsAt ls k

/-- line `p` has an instruction of a form, and is the latest that does among the lines seen from a call -/
structure CapturedAt {β : Type} (ls : List Line) (site lookback : Nat) (form : β → Instruction) (p : Nat)
    (value : β) : Prop where
  seen : SeenFrom ls site lookback p
  here : instructionAt? ls p = some (form value)
  latest : ∀ k, p < k → k < site → ∀ other, instructionAt? ls k ≠ some (form other)

theorem SeenFrom.later {ls : List Line} {site lookback j k : Nat} (h : SeenFrom ls site lookback j) (hjk : j ≤ k)
    (hk : k < site) : SeenFrom ls site lookback k := by
  obtain ⟨-, hback, hquiet⟩ := h
  exact ⟨hk, by omega, fun m hkm hm => hquiet m (by omega) hm⟩

/-- if some line seen has an instruction of a form, then one of them is the latest -/
theorem exists_capturedAt {β : Type} {ls : List Line} {site lookback k : Nat} {form : β → Instruction} {value : β}
    (hseen : SeenFrom ls site lookback k) (hk : instructionAt? ls k = some (form value)) :
    ∃ p value, CapturedAt ls site lookback form p value := by
  induction hdistance : site - k using Nat.strongRecOn generalizing k value with
  | ind distance ih =>
    by_cases hlater : ∃ m other, k < m ∧ m < site ∧ instructionAt? ls m = some (form other)
    · obtain ⟨m, other, hkm, hm, hother⟩ := hlater
      exact ih (site - m) (by omega) (hseen.later hkm.le hm) hother rfl
    · refine ⟨k, value, hseen, hk, fun m hkm hm other hother => ?_⟩
      exact hlater ⟨m, other, hkm, hm, hother⟩

namespace AddressTrace

section Window

variable {β : Type} {f : Reading → Option β} {ls : List Line} {site lookback j : Nat} {line : Line}

/-- the window from the line after `line`: it is seen first, unless it mentions a kernel call -/
theorem window_succ (hline : ls[site]? = some line) :
    window (ls.map Reading.ofLine) (site + 1) (lookback + 1) =
      if mentionsSyscall line then [] else Reading.ofLine line :: window (ls.map Reading.ofLine) site lookback := by
  have htake : ((ls.map Reading.ofLine).take (site + 1)).reverse =
      Reading.ofLine line :: ((ls.map Reading.ofLine).take site).reverse := by
    have hget : (ls.map Reading.ofLine)[site]? = some (Reading.ofLine line) := by rw [List.getElem?_map, hline]; rfl
    rw [List.take_add_one, hget]
    simp
  rw [window, htake, List.take_succ_cons, List.takeWhile_cons]
  change (if (!mentionsSyscall line) = true then _ else _) = _
  cases mentionsSyscall line <;> rfl

theorem seenFrom_succ (hline : ls[site]? = some line) :
    SeenFrom ls (site + 1) (lookback + 1) j ↔
      mentionsSyscall line = false ∧ (j = site ∨ SeenFrom ls site lookback j) := by
  have hmention : MentionsAt ls site ↔ mentionsSyscall line = true := by rw [MentionsAt, hline]; rfl
  constructor
  · rintro ⟨hlt, hback, hquiet⟩
    have hsite := hquiet site (by omega) (by omega)
    rw [hmention, Bool.not_eq_true] at hsite
    refine ⟨hsite, ?_⟩
    rcases (Nat.le_of_lt_succ hlt).eq_or_lt with rfl | hlt
    · exact Or.inl rfl
    · exact Or.inr ⟨hlt, by omega, fun k hjk hk => hquiet k hjk (by omega)⟩
  · rintro ⟨hsite, hj⟩
    have hquiet : ¬ MentionsAt ls site := by simp [hmention, hsite]
    rcases hj with rfl | ⟨hlt, hback, hbefore⟩
    · refine ⟨by omega, by omega, fun k hjk hk => ?_⟩
      obtain rfl : j = k := by omega
      exact hquiet
    · refine ⟨by omega, by omega, fun k hjk hk => ?_⟩
      rcases (Nat.le_of_lt_succ hk).eq_or_lt with rfl | hlt'
      · exact hquiet
      · exact hbefore k hjk hlt'

/-- **The first match in the window is the latest line seen that matches.** -/
theorem findSome?_window_eq_some_iff {value : β} (hsite : site ≤ ls.length) :
    (window (ls.map Reading.ofLine) site lookback).findSome? f = some value ↔
      ∃ p, SeenFrom ls site lookback p ∧ ls[p]?.bind (fun line => f (Reading.ofLine line)) = some value ∧
        ∀ k, p < k → k < site → ls[k]?.bind (fun line => f (Reading.ofLine line)) = none := by
  induction site generalizing lookback with
  | zero => simp [window, SeenFrom]
  | succ site ih =>
    have hline : ls[site]? = some ls[site] := List.getElem?_eq_getElem (by omega)
    generalize ls[site] = line at hline
    cases lookback with
    | zero =>
      have hnone : ∀ p, ¬ SeenFrom ls (site + 1) 0 p := fun p hp => by
        have hlt := hp.1
        have hback := hp.2.1
        omega
      simp [window, hnone]
    | succ lookback =>
      rw [window_succ hline]
      cases hmention : mentionsSyscall line with
      | true => simp [seenFrom_succ hline, hmention]
      | false =>
        rw [if_neg Bool.false_ne_true, List.findSome?_cons]
        cases hf : f (Reading.ofLine line) with
        | some here =>
          -- the line right before is the latest there is
          constructor
          · intro h
            obtain rfl := Option.some.inj h
            refine ⟨site, (seenFrom_succ hline).2 ⟨hmention, Or.inl rfl⟩, ?_, fun k hk hk' => by omega⟩
            rw [hline]
            exact hf
          · rintro ⟨p, hseen, hp, hlatest⟩
            rcases ((seenFrom_succ hline).1 hseen).2 with rfl | hbefore
            · rw [hline] at hp
              exact hf.symm.trans hp
            · have hlast := hlatest site hbefore.1 (by omega)
              rw [hline, Option.bind_some, hf] at hlast
              cases hlast
        | none =>
          have hlast : ls[site]?.bind (fun line => f (Reading.ofLine line)) = none := by
            rw [hline]
            exact hf
          rw [ih (by omega)]
          constructor
          · rintro ⟨p, hseen, hp, hlatest⟩
            refine ⟨p, (seenFrom_succ hline).2 ⟨hmention, Or.inr hseen⟩, hp, fun k hpk hk => ?_⟩
            rcases (Nat.le_of_lt_succ hk).eq_or_lt with rfl | hlt
            · exact hlast
            · exact hlatest k hpk hlt
          · rintro ⟨p, hseen, hp, hlatest⟩
            rcases ((seenFrom_succ hline).1 hseen).2 with rfl | hbefore
            · rw [hlast] at hp
              cases hp
            · exact ⟨p, hbefore, hp, fun k hpk hk => hlatest k hpk (by omega)⟩

/-- what a trace captures of one form of instruction, if `f` reads that form -/
theorem capturedAt_iff {form : β → Instruction} {value : β} (hsite : site ≤ ls.length)
    (hf : ∀ i value, f i = some value ↔ i.instruction? = some (form value)) :
    (window (trimmedReadings ls) site lookback).findSome? f = some value ↔
      ∃ p, CapturedAt ls site lookback form p value := by
  have hread : ∀ k value, ls[k]?.bind (fun line => f (Reading.ofLine line)) = some value ↔
      instructionAt? ls k = some (form value) := by
    intro k value
    rw [instructionAt?, Option.bind_eq_some_iff, Option.bind_eq_some_iff]
    exact exists_congr fun line => and_congr_right fun _ => hf (Reading.ofLine line) value
  rw [trimmedReadings_eq, findSome?_window_eq_some_iff hsite]
  refine exists_congr fun p => ?_
  constructor
  · rintro ⟨hseen, hp, hlatest⟩
    refine ⟨hseen, (hread p value).1 hp, fun k hpk hk other hother => ?_⟩
    have hnone := hlatest k hpk hk
    rw [(hread k other).2 hother] at hnone
    cases hnone
  · rintro ⟨hseen, hp, hlatest⟩
    refine ⟨hseen, (hread p value).2 hp, fun k hpk hk => Option.eq_none_iff_forall_ne_some.2 fun other hother => ?_⟩
    exact hlatest k hpk hk other ((hread k other).1 hother)

theorem upper?_capture_eq_some_iff (hsite : site ≤ ls.length) {t : Tracked} {upper : UInt16} :
    (capture (trimmedReadings ls) t site lookback).upper? = some upper ↔
      ∃ p, CapturedAt ls site lookback (.lui t.register) p upper := by
  refine capturedAt_iff hsite fun r value => ?_
  unfold upperOf?
  split
  · rename_i rt upper heq
    simp [heq, eq_comm]
  · rename_i hne
    exact ⟨nofun, fun h => absurd h (hne _ _)⟩

theorem lower?_capture_eq_some_iff (hsite : site ≤ ls.length) {t : Tracked} {lower : Int32} :
    (capture (trimmedReadings ls) t site lookback).lower? = some lower ↔
      ∃ p, CapturedAt ls site lookback (.addiu t.register t.register) p lower := by
  refine capturedAt_iff hsite fun r value => ?_
  unfold lowerOf?
  split
  · rename_i rt rs imm heq
    simp [heq, eq_comm, and_assoc]
  · rename_i hne
    exact ⟨nofun, fun h => absurd h (hne _ _ _)⟩

end Window

end AddressTrace

/-! ## The lower half -/

namespace AddressTrace

variable {ls : List Line} {site lookback p : Nat} {t : Tracked} {upper : UInt16}

/-- if nothing loads the register after its upper half, the lower half can only be one that stands before it -/
theorem lower?_capture_eq_none_iff (hsite : site ≤ ls.length)
    (hp : CapturedAt ls site lookback (.lui t.register) p upper)
    (hnone : ∀ k, p < k → k ≤ site → ¬ LoadsAt ls t k) :
    (capture (trimmedReadings ls) t site lookback).lower? = none ↔ ∀ k < p, SeenFrom ls site lookback k →
      ∀ imm, instructionAt? ls k ≠ some (.addiu t.register t.register imm) := by
  constructor
  · intro hlower k _ hseen imm hadd
    obtain ⟨q, lower, hq⟩ := exists_capturedAt hseen hadd
    rw [(lower?_capture_eq_some_iff hsite).2 ⟨q, hq⟩] at hlower
    cases hlower
  · intro hearlier
    refine Option.eq_none_iff_forall_ne_some.2 fun lower hlower => ?_
    obtain ⟨k, hk⟩ := (lower?_capture_eq_some_iff hsite).1 hlower
    rcases lt_trichotomy k p with hlt | rfl | hlt
    · exact hearlier k hlt hk.seen lower hk.here
    · cases hp.here.symm.trans hk.here
    · exact hnone k hlt hk.seen.1.le ⟨_, hk.here, rfl⟩

/-- an addition in place that alone loads the register after its upper half is the lower half -/
theorem lower?_capture_of_only {q : Nat} {imm : Int32} (hsite : site ≤ ls.length)
    (hp : CapturedAt ls site lookback (.lui t.register) p upper) (hpq : p < q) (hq : q < site)
    (hadd : instructionAt? ls q = some (.addiu t.register t.register imm))
    (honly : ∀ k, p < k → k ≤ site → k ≠ q → ¬ LoadsAt ls t k) :
    (capture (trimmedReadings ls) t site lookback).lower? = some imm := by
  refine (lower?_capture_eq_some_iff hsite).2 ⟨q, hp.seen.later hpq.le hq, hadd, ?_⟩
  intro k hqk hk other hother
  exact honly k (by omega) hk.le (by omega) ⟨_, hother, rfl⟩

end AddressTrace

/-! ## The address in the register -/

theorem ofInt_upper (upper : UInt16) : UInt32.ofInt (upper.toNat * 0x10000) = upper.toUInt32 <<< 16 := by
  have hlt := upper.toNat_lt
  have hmod : ((upper.toNat : Int) * 0x10000 % 2 ^ 32).toNat = upper.toNat * 0x10000 := by omega
  rw [toUInt32_shiftLeft, UInt32.ofInt, hmod]

/-- an argument register of a call, of which an address trace is taken -/
theorem argument_cases {call : SetupCall} {t : Tracked} {trace : AddressTrace}
    (h : (t, trace) ∈ [(Tracked.a0, call.a0Trace), (Tracked.a1, call.a1Trace)]) :
    t = .a0 ∧ trace = call.a0Trace ∨ t = .a1 ∧ trace = call.a1Trace := by
  simpa using h

/-- no call touches the argument registers, and they are followed through both halves of an address -/
theorem argument_facts {t : Tracked} (ht : t = .a0 ∨ t = .a1) : t ≠ .v0 ∧ t ≠ .sp ∧ t ∈ Tracked.luiTargets ∧
    t ∈ Tracked.addiuTargets ∧ t ∈ Tracked.addiuSources := by
  rcases ht with rfl | rfl <;> decide

section Register

variable {ls : List Line} {t : Tracked} {p q n : Nat} {upper : UInt16} {imm : Int32}

/-- at a line that loads the upper half of a register, the register holds it alone -/
theorem get_registersAt_lui (ht : t ∈ Tracked.luiTargets) (h : instructionAt? ls p = some (.lui t.register upper)) :
    (registersAt ls p).get t = some (upper.toUInt32 <<< 16) := by
  have hv0 : t ≠ .v0 := by rintro rfl; revert ht; decide
  have hload : (reaching ls p).loaded? (.lui t.register upper) = some (t, some (upper.toUInt32 <<< 16)) := by
    rw [RegisterFile.loaded?, among?_register ht]
    rfl
  rw [registersAt, get_onLine hv0, h, Option.elim_some, RegisterFile.execute_eq, hload]
  exact (RegisterFile.get_set _ t t _).trans (if_pos rfl)

/-- at a line that adds to a register in place, the register holds the sum -/
theorem get_registersAt_addiu {base : UInt32} (ht : t ∈ Tracked.addiuTargets) (hs : t ∈ Tracked.addiuSources)
    (hv0 : t ≠ .v0) (h : instructionAt? ls q = some (.addiu t.register t.register imm))
    (hbase : (reaching ls q).get t = some base) : (registersAt ls q).get t = some (base + imm.toUInt32) := by
  have hload : (reaching ls q).loaded? (.addiu t.register t.register imm) = some (t, some (base + imm.toUInt32)) := by
    rw [RegisterFile.loaded?, among?_register ht, addiuBase?_register hs, hbase]
    rfl
  rw [registersAt, get_onLine hv0, h, Option.elim_some, RegisterFile.execute_eq, hload]
  exact (RegisterFile.get_set _ t t _).trans (if_pos rfl)

/-- an upper half, and nothing that loads the register after it -/
theorem get_of_upper (ht : t = .a0 ∨ t = .a1) (hpn : p ≤ n) (hp : instructionAt? ls p = some (.lui t.register upper))
    (h : ∀ k, p < k → k ≤ n → ¬ LoadsAt ls t k) :
    (registersAt ls n).get t = some (UInt32.ofInt (upper.toNat * 0x10000)) := by
  obtain ⟨hv0, hsp, htarget, -⟩ := argument_facts ht
  have hkeep : (registersAt ls n).get t = (registersAt ls p).get t := get_registersAt_of_not_loadsAt hv0 hsp hpn h
  rw [hkeep, ofInt_upper]
  exact get_registersAt_lui htarget hp

/-- an upper half, then an addition in place, and nothing else that loads the register -/
theorem get_of_upper_lower (ht : t = .a0 ∨ t = .a1) (hpq : p < q) (hqn : q ≤ n)
    (hp : instructionAt? ls p = some (.lui t.register upper))
    (hq : instructionAt? ls q = some (.addiu t.register t.register imm))
    (h : ∀ k, p < k → k ≤ n → k ≠ q → ¬ LoadsAt ls t k) :
    (registersAt ls n).get t = some (UInt32.ofInt (upper.toNat * 0x10000 + imm.toInt)) := by
  obtain ⟨hv0, hsp, -, htarget, hsource⟩ := argument_facts ht
  have hbase : (reaching ls q).get t = some (UInt32.ofInt (upper.toNat * 0x10000)) := by
    obtain ⟨m, rfl⟩ : ∃ m, q = m + 1 := ⟨q - 1, by omega⟩
    rw [get_reaching_succ hsp]
    exact get_of_upper ht (by omega) hp fun k hpk hk => h k hpk (by omega) (by omega)
  have hsum : (registersAt ls q).get t = some (UInt32.ofInt (upper.toNat * 0x10000 + imm.toInt)) := by
    rw [UInt32.ofInt_add, ofInt_toInt]
    exact get_registersAt_addiu htarget hsource hv0 hq hbase
  rw [← hsum]
  exact get_registersAt_of_not_loadsAt hv0 hsp hqn fun k hqk hk => h k (by omega) hk (by omega)

end Register

end MemorySetup
