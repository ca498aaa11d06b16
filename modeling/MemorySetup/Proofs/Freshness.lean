/-
The report of a session is never stale.

The first report is made from the listing as it stands, and the editor shows other lines than the listing has; later
reports are made from the editor, but only when the text area tells of a change. `Fresh` is the invariant: the report is
the one on the text in the editor, with the lookback of the session.
- `fresh_ofListing`: it holds at first, since line ends do not matter to a report;
- `handle_cases`: all that an event can do to the editor, the report and the lookback is to press a key in the editor;
- `Fresh.edit`, `Fresh.handle`: so an event preserves it, in every pane and whatever the key.
`report_fresh` is the result for every run. It is about any text area that is lawful, not just about the `Editor`.
-/
import MemorySetup.Interactive.Session
import MemorySetup.Proofs.LineEnds

namespace MemorySetup.Interactive.Session

open Text

variable {α κ : Type} [TextArea α κ]

/-! ## Freshness -/

/-- the report is the one on the text in the editor -/
structure Fresh (lookback : Nat) (s : Session α) : Prop where
  lookback_eq : s.lookback = lookback
  report_eq : s.report = MemoryReport.ofText (TextArea.text s.editor) lookback

theorem fresh_reanalyze (s : Session α) : Fresh s.lookback s.reanalyze :=
  ⟨rfl, rfl⟩

theorem Fresh.edit [LawfulTextArea α] {lookback : Nat} {s : Session α} (h : Fresh lookback s) (k : κ) :
    Fresh lookback (s.edit k) := by
  obtain ⟨rfl, hreport⟩ := h
  simp only [Session.edit]
  split_ifs with hchanged
  · exact fresh_reanalyze { s with editor := (TextArea.input s.editor k).1 }
  · -- the text area tells of no change, so its text is the one that the report was made from
    have hlines : TextArea.lines (TextArea.input s.editor k).1 = TextArea.lines s.editor := by
      by_contra hne
      exact hchanged ((LawfulTextArea.changed_iff s.editor k).2 hne)
    refine ⟨rfl, hreport.trans ?_⟩
    simp only [TextArea.text, hlines]

theorem fresh_ofListing [LawfulTextArea α] (listing : List Char) (header? : Option Executable.Header)
    (lookback : Nat) : Fresh lookback (ofListing listing header? lookback : Session α) := by
  refine ⟨rfl, ?_⟩
  have hshown : TextArea.lines (TextArea.ofLines (editorLines listing) : α) =
      if editorLines listing = [] then [[]] else editorLines listing := LawfulTextArea.lines_ofLines _
  simp only [ofListing, TextArea.text, hshown]
  exact ofText_congr (sameLines_shown listing) lookback

/-! ## Runs -/

variable [Keystroke κ]

/-- what every event preserves, a session preserves -/
theorem handleAll_preserves {P : Session α → Prop}
    (hstep : ∀ (s s' : Session α) (event : Event κ), P s → s.handle event = some s' → P s') {s s' : Session α}
    {events : List (Event κ)} (hs : P s) (h : s.handleAll events = some s') : P s' := by
  induction events generalizing s with
  | nil =>
    obtain rfl : s = s' := Option.some.inj h
    exact hs
  | cons event events ih =>
    obtain ⟨next, hnext, hrest⟩ := Option.bind_eq_some_iff.1 h
    exact ih (hstep s next event hs hnext) hrest

theorem press_cases (s : Session α) (k : κ) :
    ((s.press k).editor = s.editor ∧ (s.press k).report = s.report ∧ (s.press k).lookback = s.lookback) ∨
      s.press k = s.edit k := by
  unfold press
  split_ifs
  · exact Or.inl ⟨rfl, rfl, rfl⟩
  · exact Or.inl ⟨rfl, rfl, rfl⟩
  · unfold pressInPane
    cases s.pane with
    | editor => exact Or.inr rfl
    | registers => exact Or.inl ⟨rfl, rfl, rfl⟩
    | setup => exact Or.inl ⟨rfl, rfl, rfl⟩
    | logs => exact Or.inl ⟨rfl, rfl, rfl⟩

/-- an event leaves the editor, the report and the lookback alone, or it is a key pressed in the editor -/
theorem handle_cases {s s' : Session α} {event : Event κ} (h : s.handle event = some s') :
    (s'.editor = s.editor ∧ s'.report = s.report ∧ s'.lookback = s.lookback) ∨
      ∃ k, event = .press k ∧ s' = s.edit k := by
  cases event with
  | press k =>
    simp only [handle] at h
    split_ifs at h
    obtain rfl := Option.some.inj h
    exact (press_cases s k).imp_right fun hedit => ⟨k, rfl, hedit⟩
  | _ =>
    obtain rfl : s = s' := Option.some.inj h
    exact Or.inl ⟨rfl, rfl, rfl⟩

theorem Fresh.handle [LawfulTextArea α] {lookback : Nat} {s s' : Session α} (h : Fresh lookback s) {event : Event κ}
    (hevent : s.handle event = some s') : Fresh lookback s' := by
  rcases handle_cases hevent with ⟨heditor, hreport, hlookback⟩ | ⟨k, -, rfl⟩
  · refine ⟨hlookback.trans h.lookback_eq, ?_⟩
    rw [hreport, heditor]
    exact h.report_eq
  · exact h.edit k

/-- **Freshness.** After any events that a session takes, and so whenever the screen is drawn, the report is the one on
the lines in the editor joined by line feeds. The listing may have line ends of any kind, and the text area may be any
that starts with the lines it is given and tells truly whether a keystroke changed its text. -/
theorem report_fresh [LawfulTextArea α] (listing : List Char) (header? : Option Executable.Header) (lookback : Nat)
    (events : List (Event κ)) (s : Session α)
    (h : (ofListing listing header? lookback : Session α).handleAll events = some s) :
    s.report = MemoryReport.ofText (unlines (TextArea.lines s.editor)) lookback :=
  (handleAll_preserves (fun _ _ _ hs hevent => hs.handle hevent) (fresh_ofListing listing header? lookback) h).report_eq

/-- a heap setup with a stray letter before it, carriage returns, and a line end at its end -/
def strayListing : List Char :=
  ['x', 'l', 'u', 'i', ' ', 'a', '0', ',', '0', 'x', '1', '0', '\r', '\n'] ++
    prepareHeapLine ++ ['\r', '\n'] ++
    syscallWord ++ ['\r', '\n']

/-- the letter is deleted, then the pane is left and a key pressed there: the report follows -/
theorem report_fresh_stray : (ofListing strayListing none 5 : Session).report.heapBase? = none ∧
    ∃ s : Session, (ofListing strayListing none 5 : Session).handleAll
        [.press .delete, .resize 80 24, .press .tab, .press .down] = some s ∧
      s.report.heapBase? = some 0x00100000 ∧ s.report = MemoryReport.ofText (unlines s.editor.lines) 5 := by
  have hview : ((ofListing strayListing none 5 : Session).handleAll
      [.press .delete, .resize 80 24, .press .tab, .press .down]).map (fun s => s.report.heapBase?) =
      some (some 0x00100000) := by decide +kernel
  obtain ⟨s, hs, hbase⟩ := Option.map_eq_some_iff.1 hview
  exact ⟨by decide +kernel, s, hs, hbase, report_fresh strayListing none 5 _ s hs⟩

end MemorySetup.Interactive.Session
