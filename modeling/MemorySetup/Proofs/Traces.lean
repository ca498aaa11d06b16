/-
What a trace shows, by the lines of a listing.

A trace is taken from the lines before a call. The call may be said to stand past the end of a listing, and then all its
lines are before it (`capture_eq_of_min_eq`). Each half is that of the latest line of its form among the lines that are
seen (`CapturedAt`), whatever the other half is.

The lines seen are settled by themselves and by the nearest mention of a kernel call, if that is in reach (`SameView`).
So the lines from the call on, those out of reach and those before that mention can be any; the mention itself can be
any line that mentions a call.

`trace_latest_seen` is the result.
-/
import Mathlib.Data.Nat.SuccPred
import Mathlib.Order.SuccPred.Archimedean
import MemorySetup.Proofs.Calculation

namespace MemorySetup

open Text

/-! ## Calls past the end -/

namespace AddressTrace

/-- a trace depends on how many lines are before the call -/
theorem capture_eq_of_min_eq {readings : List Reading} {site other : Nat}
    (h : min site readings.length = min other readings.length) (t : Tracked) (lookback : Nat) :
    capture readings t site lookback = capture readings t other lookback := by
  simp only [capture, window, List.take_eq_take_iff.2 h]

variable (ls : List Line) (t : Tracked) (site lookback : Nat)

theorem capture_eq_trimmed : capture (ls.map Reading.ofLine) t site lookback =
    capture (trimmedReadings ls) t (min site ls.length) lookback := by
  rw [trimmedReadings_eq]
  exact capture_eq_of_min_eq (by simp) t lookback

/-- the upper half is that of the latest line seen that loads one -/
theorem upper?_eq_some_iff {upper : UInt16} :
    (capture (ls.map Reading.ofLine) t site lookback).upper? = some upper ↔
      ∃ p, CapturedAt ls (min site ls.length) lookback (.lui t.register) p upper := by
  rw [capture_eq_trimmed]
  exact upper?_capture_eq_some_iff (min_le_right site ls.length)

/-- the lower half is that of the latest line seen that adds in place -/
theorem lower?_eq_some_iff {lower : Int32} :
    (capture (ls.map Reading.ofLine) t site lookback).lower? = some lower ↔
      ∃ p, CapturedAt ls (min site ls.length) lookback (.addiu t.register t.register) p lower := by
  rw [capture_eq_trimmed]
  exact lower?_capture_eq_some_iff (min_le_right site ls.length)

end AddressTrace

/-! ## Lines in view -/

/-- two listings have the same lines in view from line `n`, and the mention of a kernel call that ends the view in the
one is a mention in the other -/
structure SameView (ls other : List Line) (n lookback : Nat) : Prop where
  line : ∀ j, SeenFrom ls n lookback j → other[j]? = ls[j]?
  mention : ∀ m, IsGreatest {k | k < n ∧ MentionsAt ls k} m → n ≤ m + lookback → MentionsAt other m

/-- if there are mentions of a kernel call before line `n`, one of them is the nearest -/
theorem exists_nearest_mention {ls : List Line} {n k : Nat} (hk : k < n) (h : MentionsAt ls k) :
    ∃ m, IsGreatest {k | k < n ∧ MentionsAt ls k} m := by
  have hbounded : BddAbove {k | k < n ∧ MentionsAt ls k} := ⟨n, fun i hi => hi.1.le⟩
  exact hbounded.exists_isGreatest_of_nonempty ⟨k, hk, h⟩

namespace SameView

variable {ls other : List Line} {n lookback : Nat}

/-- the same lines are seen in both listings -/
theorem seenFrom (h : SameView ls other n lookback) (j : Nat) :
    SeenFrom other n lookback j ↔ SeenFrom ls n lookback j := by
  constructor
  · rintro ⟨hlt, hback, hquiet⟩
    refine ⟨hlt, hback, fun k hjk hk hmention => ?_⟩
    -- the nearest mention is no earlier than line `k`, and the other listing has one there, too
    obtain ⟨m, hm⟩ := exists_nearest_mention hk hmention
    have hkm : k ≤ m := hm.2 ⟨hk, hmention⟩
    exact hquiet m (hjk.trans hkm) hm.1.1 (h.mention m hm (by omega))
  · intro hseen
    refine ⟨hseen.1, hseen.2.1, fun k hjk hk => ?_⟩
    rw [MentionsAt, h.line k (hseen.later hjk hk)]
    exact hseen.2.2 k hjk hk

/-- the lines seen have the same instructions -/
theorem instruction (h : SameView ls other n lookback) {p k : Nat} (hp : SeenFrom ls n lookback p) (hpk : p ≤ k)
    (hk : k < n) : instructionAt? other k = instructionAt? ls k := by
  rw [instructionAt?, instructionAt?, h.line k (hp.later hpk hk)]

/-- the same lines are captured in both listings -/
theorem capturedAt (h : SameView ls other n lookback) {β : Type} {form : β → Instruction} {p : Nat} {value : β} :
    CapturedAt other n lookback form p value ↔ CapturedAt ls n lookback form p value := by
  constructor
  · rintro ⟨hseen, hhere, hlatest⟩
    rw [h.seenFrom] at hseen
    refine ⟨hseen, ?_, fun k hpk hk => ?_⟩
    · rw [← h.instruction hseen le_rfl hseen.1]
      exact hhere
    · rw [← h.instruction hseen hpk.le hk]
      exact hlatest k hpk hk
  · rintro ⟨hseen, hhere, hlatest⟩
    refine ⟨(h.seenFrom p).2 hseen, ?_, fun k hpk hk => ?_⟩
    · rw [h.instruction hseen le_rfl hseen.1]
      exact hhere
    · rw [h.instruction hseen hpk.le hk]
      exact hlatest k hpk hk

/-- **The lines in view settle a trace.** -/
theorem capture {site otherSite : Nat} (h : SameView ls other (min site ls.length) lookback)
    (hlength : min otherSite other.length = min site ls.length) (t : Tracked) :
    AddressTrace.capture (other.map Reading.ofLine) t otherSite lookback =
      AddressTrace.capture (ls.map Reading.ofLine) t site lookback := by
  have hupper : ∀ upper, (AddressTrace.capture (other.map Reading.ofLine) t otherSite lookback).upper? = some upper ↔
      (AddressTrace.capture (ls.map Reading.ofLine) t site lookback).upper? = some upper := by
    intro upper
    simp only [AddressTrace.upper?_eq_some_iff, hlength, h.capturedAt]
  have hlower : ∀ lower, (AddressTrace.capture (other.map Reading.ofLine) t otherSite lookback).lower? = some lower ↔
      (AddressTrace.capture (ls.map Reading.ofLine) t site lookback).lower? = some lower := by
    intro lower
    simp only [AddressTrace.lower?_eq_some_iff, hlength, h.capturedAt]
  exact congrArg₂ AddressTrace.mk (Option.ext hupper) (Option.ext hlower)

end SameView

/-- **A trace shows the latest halves that are seen.** With `n` the number of lines before the call, the upper half is
`upper` exactly if some line `j`, at most `lookback` before line `n` and with no mention of a kernel call from there to
line `n - 1`, loads it, and no line after `j` loads another; and likewise the lower half, with an addition in place.
Where no line seen is of that form, the half is missing.
So the trace is the same in every other listing with `n` lines before the call and the same lines in view: lines from
the call on, lines out of reach, and those up to the nearest mention of a kernel call do not matter, as long as that
mention stays one. -/
theorem trace_latest_seen (ls : List Line) (t : Tracked) (site lookback : Nat) :
    (∀ upper, (AddressTrace.capture (ls.map Reading.ofLine) t site lookback).upper? = some upper ↔
      ∃ j, CapturedAt ls (min site ls.length) lookback (.lui t.register) j upper) ∧
    (∀ lower, (AddressTrace.capture (ls.map Reading.ofLine) t site lookback).lower? = some lower ↔
      ∃ j, CapturedAt ls (min site ls.length) lookback (.addiu t.register t.register) j lower) ∧
    ∀ other otherSite, min otherSite other.length = min site ls.length →
      SameView ls other (min site ls.length) lookback →
      AddressTrace.capture (other.map Reading.ofLine) t otherSite lookback =
        AddressTrace.capture (ls.map Reading.ofLine) t site lookback :=
  ⟨fun _ => AddressTrace.upper?_eq_some_iff ls t site lookback,
    fun _ => AddressTrace.lower?_eq_some_iff ls t site lookback,
    fun _ _ hlength hview => hview.capture hlength t⟩

/-- a listing that loads `a0` on both sides of a kernel call, and has its lower half between two upper halves -/
def reloadedLines : List Line :=
  [['l', 'u', 'i', ' ', 'a', '0', ',', '0', 'x', '1', '0'],
    syscallWord,
    ['l', 'u', 'i', ' ', 'a', '0', ',', '0', 'x', '2', '0'],
    ['a', 'd', 'd', 'i', 'u', ' ', 'a', '0', ',', 'a', '0', ',', '-', '0', 'x', '8'],
    ['l', 'u', 'i', ' ', 'a', '0', ',', '0', 'x', '3', '0']]

/-- the same lines in view from line 5, a load that mentions a kernel call before them, and one more line after -/
def reloadedElsewhereLines : List Line :=
  [['n', 'o', 'p'],
    ['l', 'u', 'i', ' ', 'a', '0', ',', '0', 'x', '7', '7', ' ', '#'] ++ syscallWord] ++
    reloadedLines.drop 2 ++ [['l', 'u', 'i', ' ', 'a', '0', ',', '0', 'x', '5', '5']]

/-- from past the end of the one listing and from line 5 of the other the same halves are seen -/
theorem trace_latest_seen_reloaded :
    min 5 reloadedElsewhereLines.length = min 9 reloadedLines.length ∧
      SameView reloadedLines reloadedElsewhereLines (min 9 reloadedLines.length) 4 ∧
      (∃ j, CapturedAt reloadedLines (min 9 reloadedLines.length) 4 (.lui Tracked.a0.register) j 0x30) ∧
      AddressTrace.capture (reloadedElsewhereLines.map Reading.ofLine) .a0 5 4 = ⟨some 0x30, some (-0x8)⟩ := by
  have hlength : min 5 reloadedElsewhereLines.length = min 9 reloadedLines.length := by decide
  have htrace : AddressTrace.capture (reloadedLines.map Reading.ofLine) .a0 9 4 = ⟨some 0x30, some (-0x8)⟩ := by
    decide +kernel
  have hmention : MentionsAt reloadedLines 1 := by decide +kernel
  have honly : ∀ m < 5, MentionsAt reloadedLines m → MentionsAt reloadedElsewhereLines m := by decide +kernel
  have hlines : ∀ j < 5, 2 ≤ j → reloadedElsewhereLines[j]? = reloadedLines[j]? := by decide
  have hview : SameView reloadedLines reloadedElsewhereLines 5 4 := by
    refine ⟨fun j hj => hlines j hj.1 ?_, fun m hm _ => honly m hm.1.1 hm.1.2⟩
    by_contra hlt
    exact hj.2.2 1 (by omega) (by decide) hmention
  obtain ⟨hupper, -, hsame⟩ := trace_latest_seen reloadedLines .a0 9 4
  refine ⟨hlength, hview, (hupper 0x30).1 (by rw [htrace]), ?_⟩
  exact (hsame reloadedElsewhereLines 5 hlength hview).trans htrace

end MemorySetup
