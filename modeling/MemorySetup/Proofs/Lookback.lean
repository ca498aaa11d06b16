/-
What the lookback can change in a report.

Only the traces look back. The window of a wider lookback starts with that of a narrower one (`window_prefix`), and a
trace takes the first match in its window for each half; so a wider lookback keeps every half that is found and may find
more (`capture_within`). Once the window reaches the first line it grows no further (`window_of_site_le`).

`find?_wider`: a call is found with any lookback or with none, at the same line with the same registers and block; its
traces only gain. Hence the heap base (`heapBase?_ofText`) and the line of the report that judges it (`head?_lines`) are
the same for every lookback.
-/
import MemorySetup.Proofs.CallSites
import MemorySetup.Report

namespace MemorySetup

open Text

/-! ## Windows -/

namespace AddressTrace

/-- every half that one trace has, the other has with the same value -/
structure Within (narrow wide : AddressTrace) : Prop where
  upper : ∀ upper, narrow.upper? = some upper → wide.upper? = some upper
  lower : ∀ lower, narrow.lower? = some lower → wide.lower? = some lower

theorem takeWhile_prefix_takeWhile {α : Type} {p : α → Bool} {xs ys : List α} (h : xs <+: ys) :
    xs.takeWhile p <+: ys.takeWhile p := by
  obtain ⟨rest, rfl⟩ := h
  rw [List.takeWhile_append]
  split_ifs with hall
  · exact (List.takeWhile_prefix p).trans (List.prefix_append xs _)
  · exact List.prefix_refl _

variable (readings : List Reading) (t : Tracked) (site : Nat) {narrow wide : Nat}

/-- the lines seen with a narrower lookback come first among those seen with a wider one -/
theorem window_prefix (h : narrow ≤ wide) : window readings site narrow <+: window readings site wide :=
  takeWhile_prefix_takeWhile (List.take_prefix_take_left h)

/-- there are no more than `site` lines before the call -/
theorem window_of_site_le {lookback : Nat} (h : site ≤ lookback) :
    window readings site lookback = (readings.take site).reverse.takeWhile fun r => !r.mentionsSyscall := by
  have hall : ((readings.take site).reverse.take lookback) = (readings.take site).reverse := by
    apply List.take_of_length_le
    rw [List.length_reverse, List.length_take]
    omega
  rw [window, hall]

/-- a wider lookback keeps what is found -/
theorem capture_within (h : narrow ≤ wide) :
    (capture readings t site narrow).Within (capture readings t site wide) := by
  have hprefix := window_prefix readings site h
  exact ⟨fun _ hupper => hprefix.findSome?_eq_some hupper, fun _ hlower => hprefix.findSome?_eq_some hlower⟩

/-- a lookback over all lines before the call finds all there is to find -/
theorem capture_of_site_le (hnarrow : site ≤ narrow) (hwide : site ≤ wide) :
    capture readings t site narrow = capture readings t site wide := by
  simp only [capture, window_of_site_le readings site hnarrow, window_of_site_le readings site hwide]

end AddressTrace

/-! ## Reports -/

namespace MemoryReport

/-- the heap base is a matter of the registers at the first heap setup -/
theorem heapBase?_ofText (text : List Char) (lookback : Nat) :
    (ofText text lookback).heapBase? =
      (firstSite? (Text.lines text) CallNumber.setupHeap).bind fun i => (registersAt (Text.lines text) i).get .a0 := by
  have hheap : (ofText text lookback).heapSetup? = (firstSite? (Text.lines text) CallNumber.setupHeap).map
      (callFoundAt (Text.lines text) CallNumber.setupHeap lookback) := find?_eq text CallNumber.setupHeap lookback
  rw [heapBase?, hheap, Option.bind_map]
  rfl

/-- a report opens with the verdict on the heap base, if there is one -/
theorem head?_lines (report : MemoryReport) :
    report.lines.head? = some (report.heapBase?.elim noHeapLine baseLine) := by
  unfold lines
  cases hheap : report.heapSetup? with
  | none => simp [heapBase?, hheap]
  | some heap => cases report.heapBase? <;> rfl

end MemoryReport

/-- **A wider lookback only adds to the traces.** A call is found with both lookbacks or with neither, at the same line,
with the same registers and the same block. Each half of a trace that the narrower lookback finds, the wider one finds
too, with the same value; and once the narrower one reaches back to the first line, there is no difference at all. The
heap base, and with it the line of the report that judges it, does not depend on the lookback. -/
theorem find?_wider (text : List Char) (target : CallNumber) (narrow wide : Nat) (h : narrow ≤ wide) :
    (SetupCall.find? text target narrow = none ↔ SetupCall.find? text target wide = none) ∧
    (∀ call, SetupCall.find? text target narrow = some call → ∃ wider, SetupCall.find? text target wide = some wider ∧
      wider.site = call.site ∧ wider.registers = call.registers ∧ wider.block? = call.block? ∧
      call.a0Trace.Within wider.a0Trace ∧ call.a1Trace.Within wider.a1Trace ∧
      (call.site ≤ narrow → wider = call)) ∧
    (MemoryReport.ofText text narrow).heapBase? = (MemoryReport.ofText text wide).heapBase? ∧
    (MemoryReport.ofText text narrow).lines.head? = (MemoryReport.ofText text wide).lines.head? := by
  have hbase : (MemoryReport.ofText text narrow).heapBase? = (MemoryReport.ofText text wide).heapBase? := by
    rw [MemoryReport.heapBase?_ofText, MemoryReport.heapBase?_ofText]
  refine ⟨?_, fun call hcall => ?_, hbase, ?_⟩
  · rw [find?_eq, find?_eq, Option.map_eq_none_iff, Option.map_eq_none_iff]
  · rw [find?_eq] at hcall
    obtain ⟨i, hi, rfl⟩ := Option.map_eq_some_iff.1 hcall
    refine ⟨callFoundAt (lines text) target wide i, ?_, rfl, rfl, rfl, AddressTrace.capture_within _ _ _ h,
      AddressTrace.capture_within _ _ _ h, fun hsite => ?_⟩
    · rw [find?_eq, hi]
      rfl
    · have hreach : i ≤ narrow := hsite
      simp only [callFoundAt, AddressTrace.capture_of_site_le _ _ _ hreach (hreach.trans h)]
  · rw [MemoryReport.head?_lines, MemoryReport.head?_lines, hbase]

/-- a heap setup whose base is built four lines before the call -/
def farBaseLines : List Line :=
  [['l', 'u', 'i', ' ', 'a', '0', ',', '0', 'x', '6', '0'],
    ['a', 'd', 'd', 'i', 'u', ' ', 'a', '0', ',', 'a', '0', ',', '-', '0', 'x', '1', '0'],
    ['n', 'o', 'p'],
    prepareHeapLine, syscallWord]

/-- a lookback of three lines misses the upper half of that base, and one of four finds it -/
theorem find?_wider_farBase : (3 : Nat) ≤ 4 ∧ ∃ call wider,
    SetupCall.find? (unlines farBaseLines) CallNumber.setupHeap 3 = some call ∧ call.a0Trace = ⟨none, some (-0x10)⟩ ∧
      SetupCall.find? (unlines farBaseLines) CallNumber.setupHeap 4 = some wider ∧ wider.a0Trace.upper? = some 0x60 ∧
      wider.a0Trace.lower? = some (-0x10) ∧ wider.registers = call.registers := by
  have hnarrow : (SetupCall.find? (unlines farBaseLines) CallNumber.setupHeap 3).map SetupCall.a0Trace =
      some ⟨none, some (-0x10)⟩ := by decide +kernel
  have hwide : (SetupCall.find? (unlines farBaseLines) CallNumber.setupHeap 4).map (fun call => call.a0Trace.upper?) =
      some (some 0x60) := by decide +kernel
  obtain ⟨call, hcall, htrace⟩ := Option.map_eq_some_iff.1 hnarrow
  obtain ⟨wider, hwider, -, hregs, -, hwithin, -, -⟩ :=
    (find?_wider (unlines farBaseLines) CallNumber.setupHeap 3 4 (by decide)).2.1 call hcall
  rw [hwider] at hwide
  refine ⟨by decide, call, wider, hcall, htrace, hwider, Option.some.inj hwide, hwithin.lower _ ?_, hregs⟩
  rw [htrace]

end MemorySetup
