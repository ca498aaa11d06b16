/-
The calculation that is shown for an address.

Of an address argument of a call the two halves in its trace are shown as a sum, with the value of the register as the
result, such as `(0x10 << 16) + 0x20 = 0x00100020`; the lower half is shown without its sign. `ShownSum` is such a sum,
`ShownSum.text` the way it is written, and `ShownSum.Right` says that it is right modulo 2^32. A report on the heap setup
shows the sum below the line on the register (`ShownIn`).

`address_of_halves`: take the line on which the upper half was captured. If no instruction loads the register after it,
the register holds the upper half alone, and if just one does, and adds to the register in place, it holds the sum of
both halves. The second is shown as it is, up to the sign. In the first case nothing was added, but a lower half that
stands before the upper one is shown all the same; then the sum is wrong (`lower_half_before_upper`).
-/
import MemorySetup.Proofs.Calculation
import MemorySetup.Proofs.Numerals
import MemorySetup.Report

namespace MemorySetup

open Text

/-! ## Sums -/

/-- a sum as it is shown: the two halves of an address, and the address -/
structure ShownSum where
  upper : Nat
  lower : Nat
  address : Nat
  deriving DecidableEq, Repr

namespace ShownSum

/-- how the sum is written -/
def text (s : ShownSum) : String :=
  "(" ++ hexText 0 s.upper ++ " << 16) + " ++ hexText 0 s.lower ++ " = " ++ hexText 8 s.address

/-- the sum is right, modulo 2^32 -/
def Right (s : ShownSum) : Prop :=
  (s.upper * 0x10000 + s.lower) % 2 ^ 32 = s.address

/-- the lines that show the sum: the address with its label and meaning, and the sum -/
def rows (s : ShownSum) (label meaning : String) : List String :=
  [label ++ hexText 8 s.address ++ meaning, "      " ++ s.text]

/-- a report shows the sum for an address argument of the heap setup. The line on the end of the heap is printed only
with a heap base. -/
def ShownIn (s : ShownSum) (report : MemoryReport) : Tracked → Prop
  | .a0 => report.heapCalculation? = some s.text ∧ s.rows "  a0: " " heap start" <:+: report.lines
  | .a1 => report.heapEndCalculation? = some s.text ∧
      (report.heapBase? ≠ none → s.rows "  a1: " " heap end/size" <:+: report.lines)
  | _ => False

/-- the upper half alone in the register: the sum is right if there is no lower half, or zero for one -/
theorem right_alone_iff (upper : UInt16) (lower? : Option Int32) :
    Right ⟨upper.toNat, lower?.elim 0 fun imm => imm.toInt.natAbs,
      (UInt32.ofInt (upper.toNat * 0x10000)).toNat⟩ ↔ lower? = none ∨ lower? = some 0 := by
  have hupper := upper.toNat_lt
  have haddress := toNat_ofInt (upper.toNat * 0x10000)
  cases lower? with
  | none =>
    simp only [Right, Option.elim_none, true_or, iff_true]
    omega
  | some imm =>
    have hlow := imm.le_toInt
    have hhigh := imm.toInt_lt
    have hzero : imm = 0 ↔ imm.toInt = 0 := by rw [← Int32.toInt_inj]; rfl
    simp only [Right, Option.elim_some, reduceCtorEq, false_or, Option.some.injEq, hzero]
    omega

/-- the sum of both halves in the register: as it is shown it is right if the lower half is not negative, or is the
smallest number, whose sign does not count modulo 2^32 -/
theorem right_sum_iff (upper : UInt16) (imm : Int32) :
    Right ⟨upper.toNat, imm.toInt.natAbs, (UInt32.ofInt (upper.toNat * 0x10000 + imm.toInt)).toNat⟩ ↔
      0 ≤ imm.toInt ∨ imm.toInt = -2 ^ 31 := by
  have hupper := upper.toNat_lt
  have hlow := imm.le_toInt
  have hhigh := imm.toInt_lt
  have haddress := toNat_ofInt (upper.toNat * 0x10000 + imm.toInt)
  simp only [Right]
  omega

end ShownSum

/-! ## Where a sum is shown -/

theorem calculation?_eq {trace : AddressTrace} {upper : UInt16} (hupper : trace.upper? = some upper) (value : UInt32) :
    trace.calculation? value = some (ShownSum.text
      ⟨upper.toNat, trace.lower?.elim 0 fun imm => imm.toInt.natAbs, value.toNat⟩) := by
  rw [AddressTrace.calculation?, hupper]
  rfl

namespace MemoryReport

variable {report : MemoryReport} {heap : SetupCall} {value : UInt32}

/-- an address fills its column -/
theorem padded_addressText (value : UInt32) : padded 10 (addressText value) = hexText 8 value.toNat := by
  have hlength : (hexText 8 value.toNat).toList.length = 10 := by
    rw [hexText, String.toList_ofList]
    exact length_hexadecimal (by decide) value.toNat_lt
  rw [padded, addressText, List.rightpad, hlength, Nat.sub_self, List.replicate_zero, List.append_nil,
    String.ofList_toList]

/-- the line on a register with a known value -/
theorem registerLine_some (t : Tracked) (value : UInt32) (meaning : String) :
    registerLine t (some value) meaning = "  " ++ t.name ++ ": " ++ hexText 8 value.toNat ++ (" " ++ meaning) := by
  rw [registerLine, valueText, padded_addressText, String.append_assoc]

/-- a report with a heap base has the section on the heap setup in it -/
theorem heapLines_infix_lines (hheap : report.heapSetup? = some heap) (hbase : report.heapBase? ≠ none) :
    report.heapLines heap <:+: report.lines := by
  obtain ⟨base, hbase⟩ := Option.ne_none_iff_exists'.1 hbase
  have hlines : report.lines = [baseLine base, ""] ++ report.threadSetup?.elim [] threadLines ++
      report.heapLines heap ++ ["", ramLine] := by
    simp only [lines, hheap, hbase]
  rw [hlines]
  exact List.infix_append _ _ _

/-- the section has the line on each address argument, with its calculation below -/
theorem start_infix_heapLines (report : MemoryReport) (heap : SetupCall) :
    ([registerLine .a0 (heap.registers.get .a0) "heap start"] ++ calculationLines report.heapCalculation?) <:+:
      report.heapLines heap := by
  refine ⟨["Syscall 0x3D (dynamic heap setup)"] ++ blockLines heap.block?,
    [registerLine .a1 (heap.registers.get .a1) "heap end/size"] ++ calculationLines report.heapEndCalculation?, ?_⟩
  simp only [heapLines, List.append_assoc]

theorem end_suffix_heapLines (report : MemoryReport) (heap : SetupCall) :
    ([registerLine .a1 (heap.registers.get .a1) "heap end/size"] ++ calculationLines report.heapEndCalculation?) <:+
      report.heapLines heap := by
  rw [heapLines, List.append_assoc]
  exact List.suffix_append _ _

end MemoryReport

/-- the calculation of an address argument of the heap setup is shown in the report, under the line on the register -/
theorem shownIn_ofText {text : List Char} {lookback : Nat} {call : SetupCall}
    (hfound : SetupCall.find? text CallNumber.setupHeap lookback = some call) {t : Tracked} {trace : AddressTrace}
    (ht : (t, trace) ∈ [(Tracked.a0, call.a0Trace), (Tracked.a1, call.a1Trace)]) {value : UInt32}
    (hvalue : call.registers.get t = some value) {s : ShownSum} (haddress : s.address = value.toNat)
    (htext : trace.calculation? value = some s.text) : s.ShownIn (MemoryReport.ofText text lookback) t := by
  have hheap : (MemoryReport.ofText text lookback).heapSetup? = some call := hfound
  generalize MemoryReport.ofText text lookback = report at hheap
  rcases argument_cases ht with ⟨rfl, rfl⟩ | ⟨rfl, rfl⟩
  · have hcalculation : report.heapCalculation? = some s.text := by
      rw [MemoryReport.heapCalculation?, hheap]
      simp only [Option.bind_eq_bind, Option.bind_some, hvalue, htext]
    have hbase : report.heapBase? ≠ none := by
      rw [MemoryReport.heapBase?, hheap, Option.bind_some, hvalue]
      exact Option.some_ne_none value
    have hrows := MemoryReport.start_infix_heapLines report call
    rw [hvalue, hcalculation, MemoryReport.registerLine_some, ← haddress] at hrows
    exact ⟨hcalculation, hrows.trans (MemoryReport.heapLines_infix_lines hheap hbase)⟩
  · have hcalculation : report.heapEndCalculation? = some s.text := by
      rw [MemoryReport.heapEndCalculation?, hheap]
      simp only [Option.bind_eq_bind, Option.bind_some, hvalue, htext]
    have hrows := MemoryReport.end_suffix_heapLines report call
    rw [hvalue, hcalculation, MemoryReport.registerLine_some, ← haddress] at hrows
    exact ⟨hcalculation, fun hbase => hrows.isInfix.trans (MemoryReport.heapLines_infix_lines hheap hbase)⟩

/-- what is shown of an address argument with a known value and an upper half -/
theorem shown_of_upper {text : List Char} {target : CallNumber} {lookback : Nat} {call : SetupCall}
    (hfound : SetupCall.find? text target lookback = some call) {t : Tracked} {trace : AddressTrace}
    (ht : (t, trace) ∈ [(Tracked.a0, call.a0Trace), (Tracked.a1, call.a1Trace)]) {upper : UInt16}
    (hupper : trace.upper? = some upper) {value : UInt32} (hvalue : call.registers.get t = some value) :
    let sum : ShownSum := ⟨upper.toNat, trace.lower?.elim 0 fun imm => imm.toInt.natAbs, value.toNat⟩
    trace.calculation? value = some sum.text ∧
      (target = CallNumber.setupHeap → sum.ShownIn (MemoryReport.ofText text lookback) t) := by
  intro sum
  have htext : trace.calculation? value = some sum.text := calculation?_eq hupper value
  refine ⟨htext, ?_⟩
  rintro rfl
  exact shownIn_ofText hfound ht hvalue rfl htext

/-! ## The address and its halves -/

/-- **The halves and the address.** Let a call be found, with an upper half in the trace of one of its address
arguments. It was captured on a line `p`, the latest seen from the call that loads an upper half of that register.
If no instruction after line `p`, up to and with the line of the call, loads the register, then it holds the upper half
alone. But the trace has no lower half exactly if no line seen before `p` adds to the register in place; the lower half
is shown, and the sum that is shown is right only without one, or with zero.
If just one instruction there loads the register, on a line before the call, and adds to it in place, then the trace has
that number as its lower half, and the register holds the sum modulo 2^32. The number is shown without its sign, and the
sum that is shown is right exactly if the sign does not matter.
The sum is shown in the report if the call is the one that sets up the heap. -/
theorem address_of_halves (text : List Char) (target : CallNumber) (lookback : Nat) (call : SetupCall)
    (hfound : SetupCall.find? text target lookback = some call) (t : Tracked) (trace : AddressTrace)
    (ht : (t, trace) ∈ [(Tracked.a0, call.a0Trace), (Tracked.a1, call.a1Trace)]) (upper : UInt16)
    (hupper : trace.upper? = some upper) :
    ∃ p, CapturedAt (lines text) call.site lookback (.lui t.register) p upper ∧
      ((∀ k, p < k → k ≤ call.site → ¬ LoadsAt (lines text) t k) →
        let value := UInt32.ofInt (upper.toNat * 0x10000)
        let sum : ShownSum := ⟨upper.toNat, trace.lower?.elim 0 fun imm => imm.toInt.natAbs, value.toNat⟩
        call.registers.get t = some value ∧
        (trace.lower? = none ↔ ∀ k < p, SeenFrom (lines text) call.site lookback k →
          ∀ imm, instructionAt? (lines text) k ≠ some (.addiu t.register t.register imm)) ∧
        (trace.calculation? value = some sum.text ∧
          (target = CallNumber.setupHeap → sum.ShownIn (MemoryReport.ofText text lookback) t)) ∧
        (sum.Right ↔ trace.lower? = none ∨ trace.lower? = some 0)) ∧
      ∀ q imm, p < q → q < call.site →
        instructionAt? (lines text) q = some (.addiu t.register t.register imm) →
        (∀ k, p < k → k ≤ call.site → k ≠ q → ¬ LoadsAt (lines text) t k) →
        let value := UInt32.ofInt (upper.toNat * 0x10000 + imm.toInt)
        let sum : ShownSum := ⟨upper.toNat, imm.toInt.natAbs, value.toNat⟩
        trace.lower? = some imm ∧ call.registers.get t = some value ∧
        (trace.calculation? value = some sum.text ∧
          (target = CallNumber.setupHeap → sum.ShownIn (MemoryReport.ofText text lookback) t)) ∧
        (sum.Right ↔ 0 ≤ imm.toInt ∨ imm.toInt = -2 ^ 31) := by
  have hcall := hfound
  rw [find?_eq] at hfound
  obtain ⟨site, hsite, rfl⟩ := Option.map_eq_some_iff.1 hfound
  have hlength : site ≤ (lines text).length := (firstSite?_eq_some_iff.1 hsite).1.lt_length.le
  have harg : t = .a0 ∨ t = .a1 := (argument_cases ht).imp And.left And.left
  have htrace : trace = AddressTrace.capture (trimmedReadings (lines text)) t site lookback := by
    rcases argument_cases ht with ⟨rfl, rfl⟩ | ⟨rfl, rfl⟩ <;> rfl
  subst htrace
  obtain ⟨p, hp⟩ := (AddressTrace.upper?_capture_eq_some_iff hlength).1 hupper
  refine ⟨p, hp, ?_, ?_⟩
  · intro hnone value sum
    have hvalue := get_of_upper harg hp.seen.1.le hp.here hnone
    exact ⟨hvalue, AddressTrace.lower?_capture_eq_none_iff hlength hp hnone, shown_of_upper hcall ht hupper hvalue,
      ShownSum.right_alone_iff upper _⟩
  · intro q imm hpq hq hadd honly value sum
    have hlower := AddressTrace.lower?_capture_of_only hlength hp hpq hq hadd honly
    have hvalue := get_of_upper_lower harg hpq hq.le hp.here hadd honly
    have hshown := shown_of_upper hcall ht hupper hvalue
    rw [hlower] at hshown
    exact ⟨hlower, hvalue, hshown, ShownSum.right_sum_iff upper imm⟩

/-- a heap setup that builds `a0` from two halves, the lower one negative, and `a1` from an upper half alone -/
def twoHalvesLines : List Line :=
  [['a', 'd', 'd', 'i', 'u', ' ', 'a', '0', ',', 'z', 'e', 'r', 'o', ',', '0', 'x', '7'],
    ['l', 'u', 'i', ' ', 'a', '0', ',', '0', 'x', '5', '0'],
    ['l', 'u', 'i', ' ', 'a', '1', ',', '0', 'x', '2', '0', '0'],
    ['a', 'd', 'd', 'i', 'u', ' ', 'a', '0', ',', 'a', '0', ',', '-', '0', 'x', '8', '0', '0', '0'],
    prepareHeapLine, syscallWord]

/-- in that code the halves of `a0` add up, though without the sign of the lower one the sum that is shown is wrong;
`a1` is its upper half, and the sum that is shown is right -/
theorem address_of_halves_two : ∃ call, SetupCall.find? (unlines twoHalvesLines) CallNumber.setupHeap 5 = some call ∧
    call.a0Trace = ⟨some 0x50, some (-0x8000)⟩ ∧ call.registers.get .a0 = some 0x004F8000 ∧
    ["  a0: 0x004F8000 heap start", "      (0x50 << 16) + 0x8000 = 0x004F8000"] <:+:
      (MemoryReport.ofText (unlines twoHalvesLines) 5).lines ∧ ¬ ShownSum.Right ⟨0x50, 0x8000, 0x004F8000⟩ ∧
    call.a1Trace = ⟨some 0x200, none⟩ ∧ call.registers.get .a1 = some 0x02000000 ∧
    ["  a1: 0x02000000 heap end/size", "      (0x200 << 16) + 0x0 = 0x02000000"] <:+:
      (MemoryReport.ofText (unlines twoHalvesLines) 5).lines ∧ ShownSum.Right ⟨0x200, 0, 0x02000000⟩ := by
  have hview : (SetupCall.find? (unlines twoHalvesLines) CallNumber.setupHeap 5).map
      (fun call => (call.site, call.a0Trace, call.a1Trace)) =
      some (5, ⟨some 0x50, some (-0x8000)⟩, ⟨some 0x200, none⟩) := by decide +kernel
  obtain ⟨call, hcall, hcallview⟩ := Option.map_eq_some_iff.1 hview
  simp only [Prod.mk.injEq] at hcallview
  obtain ⟨hsite, ha0, ha1⟩ := hcallview
  have honly0 : ∀ p < 5, instructionAt? (lines (unlines twoHalvesLines)) p = some (.lui Tracked.a0.register 0x50) →
      p = 1 := by decide +kernel
  have honly1 : ∀ p < 5, instructionAt? (lines (unlines twoHalvesLines)) p = some (.lui Tracked.a1.register 0x200) →
      p = 2 := by decide +kernel
  have hloads0 : ∀ k ≤ 5, 1 < k → k ≠ 3 → ¬ LoadsAt (lines (unlines twoHalvesLines)) .a0 k := by decide +kernel
  have hloads1 : ∀ k ≤ 5, 2 < k → ¬ LoadsAt (lines (unlines twoHalvesLines)) .a1 k := by decide +kernel
  have hadd : instructionAt? (lines (unlines twoHalvesLines)) 3 =
      some (.addiu Tracked.a0.register Tracked.a0.register (-0x8000)) := by decide +kernel
  have hbase : (MemoryReport.ofText (unlines twoHalvesLines) 5).heapBase? ≠ none := by decide +kernel
  obtain ⟨p, hp, -, hsum⟩ := address_of_halves (unlines twoHalvesLines) CallNumber.setupHeap 5 call hcall .a0
    call.a0Trace (by simp) 0x50 (by rw [ha0])
  obtain ⟨q, hq, halone, -⟩ := address_of_halves (unlines twoHalvesLines) CallNumber.setupHeap 5 call hcall .a1
    call.a1Trace (by simp) 0x200 (by rw [ha1])
  rw [hsite] at hp hsum hq halone
  obtain rfl := honly0 p hp.seen.1 hp.here
  obtain rfl := honly1 q hq.seen.1 hq.here
  obtain ⟨-, hvalue0, ⟨-, hshown0⟩, hright0⟩ :=
    hsum 3 (-0x8000) (by decide) (by decide) hadd fun k h1 h5 h3 => hloads0 k h5 h1 h3
  obtain ⟨hvalue1, -, ⟨-, hshown1⟩, hright1⟩ := halone fun k h2 h5 => hloads1 k h5 h2
  have hrows0 : ShownSum.rows ⟨0x50, 0x8000, 0x004F8000⟩ "  a0: " " heap start" =
      ["  a0: 0x004F8000 heap start", "      (0x50 << 16) + 0x8000 = 0x004F8000"] := by decide +kernel
  have hrows1 : ShownSum.rows ⟨0x200, 0, 0x02000000⟩ "  a1: " " heap end/size" =
      ["  a1: 0x02000000 heap end/size", "      (0x200 << 16) + 0x0 = 0x02000000"] := by decide +kernel
  rw [ha1] at hshown1 hright1
  refine ⟨call, hcall, ha0, hvalue0, ?_, ?_, ha1, hvalue1, ?_, ?_⟩
  · rw [← hrows0]
    exact (hshown0 rfl).2
  · exact fun hright => absurd (hright0.1 hright) (by decide)
  · rw [← hrows1]
    exact (hshown1 rfl).2 hbase
  · exact hright1.2 (Or.inl rfl)

/-- a heap setup that adds to `a0` before it loads the upper half -/
def lowerFirstLines : List Line :=
  [['a', 'd', 'd', 'i', 'u', ' ', 'a', '0', ',', 'a', '0', ',', '0', 'x', '2', '0'],
    ['l', 'u', 'i', ' ', 'a', '0', ',', '0', 'x', '1', '0'],
    prepareHeapLine, syscallWord]

/-- **A lower half that is no part of the address is shown.** The upper half is captured on line 1, and nothing loads
`a0` after it; still the trace has a lower half, that of line 0, and the sum that is shown is wrong. -/
theorem lower_half_before_upper :
    ∃ call, SetupCall.find? (unlines lowerFirstLines) CallNumber.setupHeap 5 = some call ∧ call.site = 3 ∧
      CapturedAt (lines (unlines lowerFirstLines)) 3 5 (.lui Tracked.a0.register) 1 0x10 ∧
      (∀ k, 1 < k → k ≤ 3 → ¬ LoadsAt (lines (unlines lowerFirstLines)) .a0 k) ∧
      call.a0Trace = ⟨some 0x10, some 0x20⟩ ∧ call.registers.get .a0 = some 0x00100000 ∧
      ["  a0: 0x00100000 heap start", "      (0x10 << 16) + 0x20 = 0x00100000"] <:+:
        (MemoryReport.ofText (unlines lowerFirstLines) 5).lines := by
  have hview : (SetupCall.find? (unlines lowerFirstLines) CallNumber.setupHeap 5).map
      (fun call => (call.site, call.a0Trace, call.registers.get .a0)) =
      some (3, ⟨some 0x10, some 0x20⟩, some 0x00100000) := by decide +kernel
  obtain ⟨call, hcall, hcallview⟩ := Option.map_eq_some_iff.1 hview
  simp only [Prod.mk.injEq] at hcallview
  obtain ⟨hsite, htrace, ha0⟩ := hcallview
  have hquiet : ∀ k < 3, ¬ MentionsAt (lines (unlines lowerFirstLines)) k := by decide +kernel
  have hloads : ∀ k ≤ 3, 1 < k → ¬ LoadsAt (lines (unlines lowerFirstLines)) .a0 k := by decide +kernel
  have hupper : CapturedAt (lines (unlines lowerFirstLines)) 3 5 (.lui Tracked.a0.register) 1 0x10 := by
    refine ⟨⟨by decide, by decide, fun k _ hk => hquiet k hk⟩, by decide +kernel, fun k hk hk' other hother => ?_⟩
    exact hloads k hk'.le hk ⟨_, hother, rfl⟩
  exact ⟨call, hcall, hsite, hupper, fun k hk hk' => hloads k hk' hk, htrace, ha0, by decide +kernel⟩

end MemorySetup
