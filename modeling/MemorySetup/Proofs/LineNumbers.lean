/-
The line numbers that are shown point at the text that is shown.

A block is found by line numbers from zero and shown by line numbers from one, by the setup pane with a number on every
line and by the printed report with the first and the last number only. `numberedRow` and `quotedRow` say what either
shows of line `n`; `numberedLines_ofBounds` and `blockLines_ofBounds` that a block is shown as the rows of its numbers.

`line_numbers_point_at_text`: at any time of a session, the numbers shown with a block are those of the lines in the
editor that are shown beside them, and the last of them makes the call. The printed report on the same text shows the
same lines with the same numbers. The first report of a session is made from the listing and not from the text in the
editor, so this rests on `Fresh`.
-/
import MemorySetup.Interactive.View
import MemorySetup.Proofs.Freshness
import MemorySetup.Proofs.Numerals

namespace MemorySetup.Interactive

open Text

/-! ## Rows -/

/-- line `n` of a listing, counted from one, as the setup pane shows it: its number, set to the right in four columns,
and its text without the white space around it -/
def numberedRow (ls : List Line) (n : Nat) : SpanLine :=
  [⟨String.ofList ((toString n).toList.leftpad 4 ' ') ++ " ", .darkGray⟩, ⟨String.ofList (lineAt ls (n - 1)), .magenta⟩]

/-- line `n` of a listing, counted from one, as a printed report quotes it -/
def quotedRow (ls : List Line) (n : Nat) : String :=
  "    | " ++ String.ofList (lineAt ls (n - 1))

/-- the first and the last line of a block, counted from one -/
def spanOf (first last : Nat) : String :=
  "  lines " ++ toString first ++ "-" ++ toString last

theorem spanText_eq (block : CodeBlock) : MemoryReport.spanText block = spanOf (block.start + 1) (block.stop + 1) := by
  rw [MemoryReport.spanText, spanOf, decimalText_eq, decimalText_eq]

theorem numberSpan_eq (index : Nat) : Session.numberSpan index =
    ⟨String.ofList ((toString (index + 1)).toList.leftpad 4 ' ') ++ " ", .darkGray⟩ := by
  have hdigits : (toString (index + 1)).toList = numeral 10 (index + 1) := by
    rw [← decimalText_eq, decimalText, String.toList_ofList]
  rw [Session.numberSpan, hdigits]

section Rows

variable {ls : List Line} {start stop : Nat}

/-- a block within a listing has the trimmed lines of its numbers -/
theorem lines_ofBounds (hstop : stop < ls.length) :
    (CodeBlock.ofBounds ls start stop).lines =
      (List.range' (start + 1) (stop + 1 - start)).map fun n => lineAt ls (n - 1) := by
  apply List.ext_getElem
  · simp only [CodeBlock.ofBounds, List.length_map, List.length_drop, List.length_take, List.length_range']
    omega
  · intro i h1 h2
    simp only [List.length_map, List.length_range'] at h2
    have hline : lineAt ls (start + i) = trim ls[start + i] := lineAt_of_getElem? (List.getElem?_eq_getElem (by omega))
    simp [CodeBlock.ofBounds, hline]

theorem numberedLines_ofBounds (hstop : stop < ls.length) :
    Session.numberedLines (CodeBlock.ofBounds ls start stop) =
      (List.range' (start + 1) (stop + 1 - start)).map (numberedRow ls) := by
  rw [Session.numberedLines, lines_ofBounds hstop]
  apply List.ext_getElem
  · simp
  · intro i h1 h2
    have hindex : start + i + 1 = start + 1 + i := by omega
    simp [numberedRow, numberSpan_eq, CodeBlock.ofBounds, hindex]

theorem blockLines_ofBounds (hstop : stop < ls.length) :
    MemoryReport.blockLines (some (CodeBlock.ofBounds ls start stop)) =
      (spanOf (start + 1) (stop + 1) ++ ":") :: (List.range' (start + 1) (stop + 1 - start)).map (quotedRow ls) := by
  rw [MemoryReport.blockLines, spanText_eq, lines_ofBounds hstop, List.map_map]
  rfl

end Rows

/-! ## The two calls that are shown -/

/-- the calls that a session and a report show -/
inductive ShownCall where
  | thread | heap
  deriving DecidableEq, Repr

namespace ShownCall

def number : ShownCall → CallNumber
  | thread => CallNumber.setupThread
  | heap => CallNumber.setupHeap

/-- the heading of the call in the setup pane -/
def paneTitle : ShownCall → String
  | thread => "Syscall 0x3C (stack setup)"
  | heap => "Syscall 0x3D (heap setup)"

/-- the heading of the call in a printed report -/
def reportTitle : ShownCall → String
  | thread => "Syscall 0x3C (stack setup)"
  | heap => "Syscall 0x3D (dynamic heap setup)"

/-- the block that a report has for the call -/
def block? (report : MemoryReport) : ShownCall → Option CodeBlock
  | thread => report.threadSetup?.bind SetupCall.block?
  | heap => report.heapSetup?.bind SetupCall.block?

/-- a block is a matter of the text, whatever the lookback -/
theorem block?_ofText (shown : ShownCall) (text : List Char) (lookback : Nat) :
    shown.block? (MemoryReport.ofText text lookback) =
      (firstSite? (lines text) shown.number).bind fun _ => CodeBlock.find? (lines text) shown.number := by
  have hfound : ∀ number, (SetupCall.find? text number lookback).bind SetupCall.block? =
      (firstSite? (lines text) number).bind fun _ => CodeBlock.find? (lines text) number := by
    intro number
    rw [find?_eq, Option.bind_map]
    rfl
  cases shown with
  | thread => exact hfound CallNumber.setupThread
  | heap => exact hfound CallNumber.setupHeap

/-- the bounds of the block in a report on a text -/
theorem exists_ofBounds {shown : ShownCall} {text : List Char} {lookback : Nat} {block : CodeBlock}
    (h : shown.block? (MemoryReport.ofText text lookback) = some block) :
    block = CodeBlock.ofBounds (lines text) block.start block.stop ∧ block.start ≤ block.stop ∧
      IsCallSite (lines text) block.stop shown.number := by
  rw [block?_ofText] at h
  obtain ⟨_, -, hblock⟩ := Option.bind_eq_some_iff.1 h
  obtain ⟨start, stop, -, hstop, rfl⟩ := find?_block_iff.1 hblock
  exact ⟨rfl, hstop.1⟩

/-- where the setup pane shows a block, with an empty line after it -/
theorem block_infix_setupLines {α : Type} {shown : ShownCall} {s : Session α} {block : CodeBlock}
    (h : shown.block? s.report = some block) :
    ([⟨shown.paneTitle, .cyan⟩] :: [⟨MemoryReport.spanText block, .darkGray⟩] :: Session.numberedLines block ++
      [[]]) <:+: s.setupLines := by
  have hlines : ∀ (title : String) (call? : Option SetupCall), call?.bind SetupCall.block? = some block →
      Session.callBlockLines title call? = [⟨title, .cyan⟩] :: [⟨MemoryReport.spanText block, .darkGray⟩] ::
        Session.numberedLines block ++ [[]] := by
    intro title call? hcall
    rw [Session.callBlockLines, hcall]
    rfl
  cases shown with
  | thread =>
    rw [Session.setupLines, hlines _ _ h, List.append_assoc, List.append_assoc]
    exact (List.prefix_append _ _).isInfix
  | heap =>
    rw [Session.setupLines, hlines _ s.report.heapSetup? h, List.append_assoc]
    exact ⟨_, _, rfl⟩

/-- a report prints its sections, or the one line that there is no heap setup -/
theorem report_lines_cases (report : MemoryReport) : report.lines = [MemoryReport.noHeapLine] ∨
    ∃ heap base, report.heapSetup? = some heap ∧ report.lines = [MemoryReport.baseLine base, ""] ++
      report.threadSetup?.elim [] MemoryReport.threadLines ++ report.heapLines heap ++ ["", MemoryReport.ramLine] := by
  unfold MemoryReport.lines
  split
  · rename_i heap base hheap hbase
    exact .inr ⟨heap, base, hheap, rfl⟩
  · exact .inl rfl

/-- where a printed report quotes a block -/
theorem block_infix_lines {shown : ShownCall} {report : MemoryReport} {block : CodeBlock}
    (h : shown.block? report = some block) (hprinted : shown.reportTitle ∈ report.lines) :
    (shown.reportTitle :: MemoryReport.blockLines (some block)) <:+: report.lines := by
  rcases report_lines_cases report with hlines | ⟨heap, base, hheap, hlines⟩
  · -- the only line of a report without a heap base is no heading
    rw [hlines] at hprinted
    have htitle := List.mem_singleton.1 hprinted
    cases shown <;> exact absurd htitle (by decide)
  · rw [hlines]
    cases shown with
    | thread =>
      obtain ⟨thread, hthread, hblock⟩ := Option.bind_eq_some_iff.1 h
      have hstart : (reportTitle .thread :: MemoryReport.blockLines (some block)) <+:
          MemoryReport.threadLines thread := by
        rw [MemoryReport.threadLines, hblock, List.append_assoc]
        exact List.prefix_append _ _
      rw [hthread, Option.elim_some, List.append_assoc _ _ ["", MemoryReport.ramLine]]
      exact hstart.isInfix.trans (List.infix_append _ _ _)
    | heap =>
      have hblock : heap.block? = some block := by
        have hbind : report.heapSetup?.bind SetupCall.block? = some block := h
        rwa [hheap] at hbind
      have hstart : (reportTitle .heap :: MemoryReport.blockLines (some block)) <+: report.heapLines heap := by
        rw [MemoryReport.heapLines, hblock, List.append_assoc, List.append_assoc, List.append_assoc]
        exact List.prefix_append _ _
      exact hstart.isInfix.trans (List.infix_append _ _ _)

end ShownCall

namespace Session

variable {α κ : Type} [TextArea α κ] [Keystroke κ]

/-- **Line numbers.** After any events that a session takes, let it have a block for one of the two calls. The setup
pane shows the block under the heading of the call: first the span of its numbers, counted from one, and then exactly
one row for each of these numbers, with the number and the trimmed line that has this number in the text of the editor.
The last line mentions a kernel call, and the line before it prepares the call that the block belongs to. A printed
report on the same text, with whatever lookback, has the same span and the same lines, if it has the heading at all. -/
theorem line_numbers_point_at_text [LawfulTextArea α] (listing : List Char) (header? : Option Executable.Header)
    (lookback : Nat) (events : List (Event κ)) (s : Session α)
    (h : (ofListing listing header? lookback : Session α).handleAll events = some s) (shown : ShownCall)
    (block : CodeBlock) (hblock : shown.block? s.report = some block) :
    let ls := lines (TextArea.text s.editor)
    let first := block.start + 1
    let last := block.stop + 1
    let numbers := List.range' first (last + 1 - first)
    first ≤ last ∧ last ≤ ls.length ∧
    ([⟨shown.paneTitle, .cyan⟩] :: [⟨spanOf first last, .darkGray⟩] :: numbers.map (numberedRow ls) ++ [[]]) <:+:
      s.setupLines ∧
    IsCallSite ls (last - 1) shown.number ∧
    ∀ lookback', shown.reportTitle ∈ (MemoryReport.ofText (TextArea.text s.editor) lookback').lines →
      (shown.reportTitle :: (spanOf first last ++ ":") :: numbers.map (quotedRow ls)) <:+:
        (MemoryReport.ofText (TextArea.text s.editor) lookback').lines := by
  intro ls first last numbers
  have hfresh : Fresh lookback s :=
    handleAll_preserves (fun _ _ _ hs hevent => hs.handle hevent) (fresh_ofListing listing header? lookback) h
  have hfound := hblock
  rw [hfresh.report_eq] at hfound
  obtain ⟨hbounds, hle, hsite⟩ := ShownCall.exists_ofBounds hfound
  have hcount : last + 1 - first = block.stop + 1 - block.start := by omega
  refine ⟨Nat.succ_le_succ hle, hsite.lt_length, ?_, hsite, fun lookback' hprinted => ?_⟩
  · have hrows : numberedLines block = numbers.map (numberedRow ls) := by
      rw [hbounds, numberedLines_ofBounds hsite.lt_length, ← hcount]
    rw [← hrows, ← spanText_eq]
    exact ShownCall.block_infix_setupLines hblock
  · have hsame : shown.block? (MemoryReport.ofText (TextArea.text s.editor) lookback') = some block := by
      rw [ShownCall.block?_ofText] at hfound ⊢
      exact hfound
    have hrows : MemoryReport.blockLines (some block) = (spanOf first last ++ ":") :: numbers.map (quotedRow ls) := by
      rw [hbounds, blockLines_ofBounds hsite.lt_length, ← hcount]
    rw [← hrows]
    exact ShownCall.block_infix_lines hsame hprinted

/-- both setups, with white space and a carriage return around the lines of the first -/
def indentedListing : List Char :=
  [' ', 'l', 'u', 'i', ' ', 'a', '0', ',', '0', 'x', '3', '0', '\r', '\n', '\t'] ++
    prepareThreadLine ++ ['\n'] ++
    syscallWord ++ ['\n'] ++
    prepareHeapLine ++ ['\n'] ++ syscallWord

/-- a new line at the top moves the numbers of the block with its lines, on the screen and in print -/
theorem line_numbers_point_at_text_indented : ∃ s : Session,
    (ofListing indentedListing none 5 : Session).handleAll [.press .enter] = some s ∧
      ([⟨"Syscall 0x3C (stack setup)", .cyan⟩] :: [⟨"  lines 2-4", .darkGray⟩] ::
        [[⟨"   2 ", .darkGray⟩, ⟨"lui a0,0x30", .magenta⟩], [⟨"   3 ", .darkGray⟩, ⟨"addiu v1,zero,0x3c", .magenta⟩],
          [⟨"   4 ", .darkGray⟩, ⟨"syscall", .magenta⟩]] ++ [[]]) <:+: s.setupLines ∧
      ["Syscall 0x3C (stack setup)", "  lines 2-4:", "    | lui a0,0x30", "    | addiu v1,zero,0x3c",
        "    | syscall"] <:+: (MemoryReport.ofText (TextArea.text s.editor) 5).lines := by
  have hview : ((ofListing indentedListing none 5 : Session).handleAll [.press .enter]).map (fun s =>
      ((ShownCall.thread.block? s.report).map fun block => (block.start, block.stop), TextArea.text s.editor)) =
      some (some (1, 3), '\n' :: indentedListing.filter (· ≠ '\r')) := by decide +kernel
  obtain ⟨s, hs, hsview⟩ := Option.map_eq_some_iff.1 hview
  obtain ⟨hbounds, htext⟩ := Prod.mk.inj hsview
  obtain ⟨block, hblock, hpair⟩ := Option.map_eq_some_iff.1 hbounds
  obtain ⟨hstart, hstop⟩ := Prod.mk.inj hpair
  have hprinted : ShownCall.thread.reportTitle ∈ (MemoryReport.ofText (TextArea.text s.editor) 5).lines := by
    rw [htext]
    decide +kernel
  obtain ⟨-, -, hpane, -, hreport⟩ :=
    line_numbers_point_at_text indentedListing none 5 [.press .enter] s hs .thread block hblock
  have hprint := hreport 5 hprinted
  simp only [hstart, hstop, htext] at hpane hprint
  refine ⟨s, hs, ?_, ?_⟩
  · refine Eq.subst (motive := fun rows => rows <:+: s.setupLines) ?_ hpane
    decide +kernel
  · rw [htext]
    refine Eq.subst (motive := fun rows => rows <:+: _) ?_ hprint
    decide +kernel

end Session

end MemorySetup.Interactive
