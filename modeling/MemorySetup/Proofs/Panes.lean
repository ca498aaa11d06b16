/-
What each pane of a session gets to see.

Every event of a run has its pane: the one that is active when the event comes, which only the number of Tab presses
before it decides. `keysFor start pane events` is the keystrokes that are left to a pane, in order: those pressed while
it is active, except the two keys that work everywhere. What a session holds falls apart into the part that editing
changes (`Session.edit`) and the `Outlook`, which is what the user chose to see; editing and the outlook do not touch
each other (`edit_seenAs`).

`handleAll_eq`: a run edits with the keystrokes of the editor alone, and its outlook is that of the counts and of the
keystrokes of the two other panes (`Outlook.after`). The induction is on the events from the last one back, since the
pane of an event depends on all events before it.

`panes_isolated`: hence a run ends as if the editor had been given its own keystrokes and no other event; only Escape
ends it, in every pane.
-/
import Mathlib.Dynamics.PeriodicPts.Defs
import MemorySetup.Interactive.Session

namespace MemorySetup.Interactive

/-! ## Keystrokes by pane -/

/-- the keystroke of a press -/
def Event.pressed? {κ : Type} : Event κ → Option κ
  | .press k => some k
  | _ => none

theorem eq_press_of_pressed? {κ : Type} {event : Event κ} {k : κ} (h : event.pressed? = some k) : event = .press k := by
  cases event with
  | press k' => rw [Option.some.inj h]
  | _ => cases h

/-- the place of a pane in the order in which they become active -/
def Pane.position : Pane → Nat
  | editor => 0
  | registers => 1
  | setup => 2
  | logs => 3

section Keystrokes

variable {κ : Type} [Keystroke κ]

/-- an event is a press of the given key -/
def Event.Presses (event : Event κ) (key : Key) : Prop :=
  event.pressed?.bind Keystroke.key? = some key

instance (event : Event κ) (key : Key) : Decidable (event.Presses key) :=
  inferInstanceAs (Decidable (_ = _))

/-- how often a key is pressed -/
def presses (key : Key) (events : List (Event κ)) : Nat :=
  events.countP fun event => event.Presses key

/-- a keystroke that is left to the active pane: neither Tab nor the key for the format of numbers -/
def IsLocal (k : κ) : Prop :=
  Keystroke.key? k ≠ some .tab ∧ Keystroke.key? k ≠ some Session.formatKey

instance (k : κ) : Decidable (IsLocal k) :=
  inferInstanceAs (Decidable (_ ∧ _))

/-- the keystrokes for a pane, in order: left to the active pane and pressed while this one was active, which is a
matter of the pane that was active at the start and of the number of Tab presses so far -/
def keysFor (start pane : Pane) (events : List (Event κ)) : List κ :=
  (List.range events.length).filterMap fun i =>
    if (start.position + presses .tab (events.take i)) % 4 = pane.position then
      (events[i]?.bind Event.pressed?).filter fun k => IsLocal k
    else none

/-- a keystroke that scrolls -/
def isArrow (k : κ) : Bool :=
  Keystroke.key? k = some .up ∨ Keystroke.key? k = some .down

/-- where a pane is scrolled to by its arrows: one line up or down at a time, between 0 and 65535 -/
def scrolled (offset : Nat) (keys : List κ) : Nat :=
  (keys.filter isArrow).foldl (fun n k => if Keystroke.key? k = some .up then n - 1 else min (n + 1) 65535) offset

/-! ## The panes in turn -/

theorem Pane.iterate_mod (n : Nat) (p : Pane) : Pane.next^[n % 4] p = Pane.next^[n] p :=
  Function.IsPeriodicPt.iterate_mod_apply (show Pane.next^[4] p = p by cases p <;> rfl) n

theorem NumberFormat.iterate_mod (n : Nat) (f : NumberFormat) : NumberFormat.next^[n % 3] f = NumberFormat.next^[n] f :=
  Function.IsPeriodicPt.iterate_mod_apply (show NumberFormat.next^[3] f = f by cases f <;> rfl) n

theorem Pane.position_iterate (n : Nat) (p : Pane) : (Pane.next^[n] p).position = (p.position + n) % 4 := by
  induction n with
  | zero => cases p <;> rfl
  | succ n ih =>
    have hnext : ∀ q : Pane, q.next.position = (q.position + 1) % 4 := by
      intro q
      cases q <;> rfl
    rw [Function.iterate_succ_apply', hnext, ih]
    omega

/-- the pane that is active after `n` Tab presses is the one in the `n`-th place from the start -/
theorem Pane.position_eq_iff {n : Nat} {start pane : Pane} :
    (start.position + n) % 4 = pane.position ↔ Pane.next^[n] start = pane := by
  rw [← Pane.position_iterate]
  constructor
  · intro h
    revert h
    cases Pane.next^[n] start <;> cases pane <;> decide
  · rintro rfl
    rfl

/-! ## One event more -/

theorem presses_concat (key : Key) (events : List (Event κ)) (event : Event κ) :
    presses key (events ++ [event]) = presses key events + if event.Presses key then 1 else 0 := by
  simp [presses, List.countP_append, List.countP_singleton]

theorem keysFor_concat (start pane : Pane) (events : List (Event κ)) (event : Event κ) :
    keysFor start pane (events ++ [event]) = keysFor start pane events ++
      if Pane.next^[presses .tab events] start = pane then (event.pressed?.filter fun k => IsLocal k).toList
      else [] := by
  unfold keysFor
  rw [List.length_append, List.length_singleton, List.range_succ, List.filterMap_append]
  congr 1
  · -- the events before look the same from every index before the last
    refine List.filterMap_congr fun i hi => ?_
    have hlt := List.mem_range.1 hi
    rw [List.take_append_of_le_length hlt.le, List.getElem?_append_left hlt]
  · simp only [← Pane.position_eq_iff, List.filterMap_cons, List.filterMap_nil, List.take_left,
      List.getElem?_concat_length, Option.bind_some]
    split_ifs
    · cases event.pressed?.filter fun k => IsLocal k <;> rfl
    · rfl

theorem keysFor_concat_of_not_pressed {event : Event κ} (h : event.pressed? = none) (start pane : Pane)
    (events : List (Event κ)) : keysFor start pane (events ++ [event]) = keysFor start pane events := by
  rw [keysFor_concat, h]
  simp

/-- a keystroke that is left to no pane -/
theorem keysFor_concat_of_not_local {k : κ} (h : ¬ IsLocal k) (start pane : Pane) (events : List (Event κ)) :
    keysFor start pane (events ++ [.press k]) = keysFor start pane events := by
  have hnone : ((Event.press k).pressed?.filter fun k => IsLocal k) = none := by
    simp [Event.pressed?, Option.filter, h]
  rw [keysFor_concat, hnone]
  simp

/-- a keystroke for the pane that is active -/
theorem keysFor_concat_of_local {k : κ} (h : IsLocal k) (start pane : Pane) (events : List (Event κ)) :
    keysFor start pane (events ++ [.press k]) =
      if Pane.next^[presses .tab events] start = pane then keysFor start pane events ++ [k]
      else keysFor start pane events := by
  have hsome : ((Event.press k).pressed?.filter fun k => IsLocal k) = some k := by
    simp [Event.pressed?, Option.filter, h]
  rw [keysFor_concat, hsome]
  split_ifs
  · rfl
  · exact List.append_nil _

theorem mem_keysFor {k : κ} {start pane : Pane} {events : List (Event κ)} (h : k ∈ keysFor start pane events) :
    IsLocal k ∧ .press k ∈ events := by
  obtain ⟨i, -, hi⟩ := List.mem_filterMap.1 h
  split_ifs at hi
  obtain ⟨hpressed, hlocal⟩ := Option.filter_eq_some_iff.1 hi
  obtain ⟨event, hevent, hk⟩ := Option.bind_eq_some_iff.1 hpressed
  obtain rfl := eq_press_of_pressed? hk
  exact ⟨by simpa using hlocal, List.mem_of_getElem? hevent⟩

/-- the arrows act one by one, and other keys do nothing -/
theorem scrolled_concat (offset : Nat) (keys : List κ) (k : κ) :
    scrolled offset (keys ++ [k]) = Session.scrollBy (scrolled offset keys) k := by
  unfold scrolled Session.scrollBy
  rw [List.filter_append, List.foldl_append]
  cases hkey : Keystroke.key? k with
  | none => simp [isArrow, hkey]
  | some key => cases key <;> simp [isArrow, hkey, Session.scroll, Session.maxScroll]

end Keystrokes

/-! ## Editing and the outlook -/

/-- what the user chose to see -/
structure Outlook where
  pane : Pane
  format : NumberFormat
  registersScroll : Nat
  setupScroll : Nat
  deriving DecidableEq, Repr

/-- the outlook after events: the counts of the two keys that work everywhere, and the arrows in two of the panes -/
def Outlook.after {κ : Type} [Keystroke κ] (o : Outlook) (events : List (Event κ)) : Outlook :=
  ⟨Pane.next^[presses .tab events] o.pane, NumberFormat.next^[presses Session.formatKey events] o.format,
    scrolled o.registersScroll (keysFor o.pane .registers events),
    scrolled o.setupScroll (keysFor o.pane .setup events)⟩

namespace Session

variable {α κ : Type}

def outlook (s : Session α) : Outlook :=
  ⟨s.pane, s.format, s.registersScroll, s.setupScroll⟩

/-- the session with another outlook -/
def seenAs (s : Session α) (o : Outlook) : Session α :=
  { s with pane := o.pane, format := o.format, registersScroll := o.registersScroll, setupScroll := o.setupScroll }

variable [TextArea α κ]

/-- editing does not look at the outlook and leaves it alone -/
theorem edit_seenAs (s : Session α) (o : Outlook) (k : κ) : (s.seenAs o).edit k = (s.edit k).seenAs o := by
  rcases hinput : TextArea.input s.editor k with ⟨editor, changed⟩
  have hseen : TextArea.input (s.seenAs o).editor k = (editor, changed) := hinput
  simp only [edit, hinput, hseen]
  cases changed <;> rfl

theorem foldl_edit_seenAs (s : Session α) (o : Outlook) (keys : List κ) :
    keys.foldl edit (s.seenAs o) = (keys.foldl edit s).seenAs o := by
  induction keys generalizing s with
  | nil => rfl
  | cons k keys ih => rw [List.foldl_cons, List.foldl_cons, edit_seenAs, ih]

theorem pane_edit (s : Session α) (k : κ) : (s.edit k).pane = s.pane := by
  have hsame : s.edit k = (s.edit k).seenAs s.outlook := edit_seenAs s s.outlook k
  rw [hsame]
  rfl

variable [Keystroke κ]

theorem handleAll_cons (s : Session α) (event : Event κ) (events : List (Event κ)) :
    s.handleAll (event :: events) = (s.handle event).bind fun next => next.handleAll events :=
  List.foldlM_cons

theorem handleAll_concat (s : Session α) (events : List (Event κ)) (event : Event κ) :
    s.handleAll (events ++ [event]) = (s.handleAll events).bind fun last => last.handle event := by
  simp only [handleAll, List.foldlM_append, List.foldlM_cons, List.foldlM_nil, bind_pure]
  rfl

theorem handle_of_not_escape {event : Event κ} (h : ¬ event.Presses .escape) (s : Session α) :
    s.handle event = some (event.pressed?.elim s s.press) := by
  cases event with
  | press k => exact if_neg h
  | _ => rfl

/-- the step of `handleAll_eq`, where `edited` is what was edited so far -/
theorem press_after (edited : Session α) (o : Outlook) (events : List (Event κ)) (k : κ) :
    (edited.seenAs (o.after events)).press k =
      (if IsLocal k ∧ Pane.next^[presses .tab events] o.pane = .editor then edited.edit k else edited).seenAs
        (o.after (events ++ [.press k])) := by
  have hcount : ∀ key, presses key (events ++ [.press k]) =
      presses key events + if Keystroke.key? k = some key then 1 else 0 :=
    fun key => presses_concat key events (.press k)
  by_cases htab : Keystroke.key? k = some .tab
  · have hkeys := keysFor_concat_of_not_local fun hlocal : IsLocal k => hlocal.1 htab
    have hformat : (some Key.tab : Option Key) ≠ some formatKey := by decide
    simp only [press, IsLocal, Outlook.after, hcount, hkeys, htab, hformat, if_true, if_false, ne_eq, not_true_eq_false,
      false_and, Nat.add_zero, Function.iterate_succ_apply']
    rfl
  by_cases hformat : Keystroke.key? k = some formatKey
  · have hkeys := keysFor_concat_of_not_local fun hlocal : IsLocal k => hlocal.2 hformat
    have htab' : (some formatKey : Option Key) ≠ some .tab := by decide
    simp only [press, IsLocal, Outlook.after, hcount, hkeys, hformat, htab', if_true, if_false, ne_eq,
      not_true_eq_false, and_false, false_and, Nat.add_zero, Function.iterate_succ_apply']
    rfl
  · have hlocal : IsLocal k := ⟨htab, hformat⟩
    simp only [press, htab, hformat, if_false, Outlook.after, hcount, Nat.add_zero, keysFor_concat_of_local hlocal,
      hlocal, true_and]
    cases hpane : Pane.next^[presses .tab events] o.pane with
    | editor =>
      simp only [pressInPane, seenAs, if_true, reduceCtorEq, if_false]
      exact edit_seenAs edited ⟨.editor, _, _, _⟩ k
    | registers =>
      simp only [pressInPane, seenAs, if_true, reduceCtorEq, if_false, scrolled_concat]
    | setup =>
      simp only [pressInPane, seenAs, if_true, reduceCtorEq, if_false, scrolled_concat]
    | logs =>
      simp only [pressInPane, seenAs, reduceCtorEq, if_false]

/-- **A run without Escape.** It edits with the keystrokes of the editor, and what is seen follows from the counts and
the keystrokes of the other panes. -/
theorem handleAll_eq (s : Session α) (events : List (Event κ)) (h : ∀ event ∈ events, ¬ event.Presses .escape) :
    s.handleAll events = some (((keysFor s.pane .editor events).foldl edit s).seenAs (s.outlook.after events)) := by
  induction events using List.reverseRecOn with
  | nil => rfl
  | append_singleton events event ih =>
    have hevent : ¬ event.Presses .escape := h event (by simp)
    rw [handleAll_concat, ih fun e he => h e (List.mem_append_left _ he), Option.bind_some, handle_of_not_escape hevent]
    congr 1
    cases hpressed : event.pressed? with
    | some k =>
      obtain rfl := eq_press_of_pressed? hpressed
      rw [Option.elim_some, press_after]
      by_cases hlocal : IsLocal k
      · rw [keysFor_concat_of_local hlocal]
        simp only [hlocal, true_and, outlook]
        split_ifs
        · rw [List.foldl_append]
          rfl
        · rfl
      · rw [if_neg fun hactive => hlocal hactive.1, keysFor_concat_of_not_local hlocal]
    | none =>
      have hkeys := keysFor_concat_of_not_pressed hpressed s.pane
      simp only [Option.elim_none, Outlook.after, outlook, hkeys, presses_concat, Event.Presses, hpressed,
        Option.bind_none, reduceCtorEq, if_false, Nat.add_zero]

/-! ## The end of a run, and events that are no presses -/

theorem handleAll_of_escape {s : Session α} {events : List (Event κ)} {event : Event κ} (hmem : event ∈ events)
    (hescape : event.Presses .escape) : s.handleAll events = none := by
  induction events generalizing s with
  | nil => cases hmem
  | cons first events ih =>
    rw [handleAll_cons]
    rcases List.mem_cons.1 hmem with rfl | hrest
    · cases event with
      | press k =>
        have hnone : s.handle (.press k) = none := if_pos hescape
        rw [hnone]
        rfl
      | _ => cases hescape
    · cases s.handle first with
      | none => rfl
      | some next => exact ih hrest

theorem handleAll_filter_pressed (s : Session α) (events : List (Event κ)) :
    s.handleAll (events.filter fun event => event.pressed?.isSome) = s.handleAll events := by
  induction events generalizing s with
  | nil => rfl
  | cons event events ih =>
    cases event with
    | press k =>
      rw [List.filter_cons_of_pos rfl, handleAll_cons, handleAll_cons]
      simp only [ih]
    | _ =>
      rw [List.filter_cons_of_neg (by simp [Event.pressed?]), handleAll_cons, ih]
      rfl

/-- keystrokes that are left to the editor, given to it -/
theorem handleAll_presses {s : Session α} (hpane : s.pane = .editor) {keys : List κ}
    (hkeys : ∀ k ∈ keys, IsLocal k ∧ Keystroke.key? k ≠ some .escape) :
    s.handleAll (keys.map .press) = some (keys.foldl edit s) := by
  induction keys generalizing s with
  | nil => rfl
  | cons k keys ih =>
    obtain ⟨⟨htab, hformat⟩, hescape⟩ := hkeys k List.mem_cons_self
    have hhandle : s.handle (.press k) = some (s.edit k) := by
      simp only [handle, if_neg hescape, press, if_neg htab, if_neg hformat, pressInPane, hpane]
    rw [List.map_cons, handleAll_cons, hhandle, Option.bind_some, List.foldl_cons]
    exact ih ((pane_edit s k).trans hpane) fun k' hk' => hkeys k' (List.mem_cons_of_mem k hk')

/-- **Isolation of the panes.** Take any session and any events. A press of Escape ends the run, in whatever pane it
comes. Without one the session goes on, and its editor, report and log are those that it has after the keystrokes for
the editor alone; for a session that starts in the editor these are the keys pressed after a number of Tab presses that
is a multiple of four. The active pane is a matter of the number of Tab presses modulo four, the format of numbers one
of the presses of its key modulo three, and each of the two panes with analysis results is scrolled by its own arrows
only. Events other than presses might as well not have been there. -/
theorem panes_isolated (s : Session α) (events : List (Event κ)) :
    ((∃ event ∈ events, event.Presses .escape) → s.handleAll events = none) ∧
    ((∀ event ∈ events, ¬ event.Presses .escape) → ∃ last edited,
      s.handleAll events = some last ∧
      { s with pane := .editor }.handleAll ((keysFor s.pane .editor events).map .press) = some edited ∧
      last.editor = edited.editor ∧ last.report = edited.report ∧ last.logs = edited.logs ∧
      last.pane = Pane.next^[presses .tab events % 4] s.pane ∧
      last.format = NumberFormat.next^[presses formatKey events % 3] s.format ∧
      last.registersScroll = scrolled s.registersScroll (keysFor s.pane .registers events) ∧
      last.setupScroll = scrolled s.setupScroll (keysFor s.pane .setup events)) ∧
    s.handleAll (events.filter fun event => event.pressed?.isSome) = s.handleAll events := by
  refine ⟨?_, ?_, handleAll_filter_pressed s events⟩
  · rintro ⟨event, hmem, hescape⟩
    exact handleAll_of_escape hmem hescape
  · intro h
    have hkeys : ∀ k ∈ keysFor s.pane .editor events, IsLocal k ∧ Keystroke.key? k ≠ some .escape := by
      intro k hk
      obtain ⟨hlocal, hmem⟩ := mem_keysFor hk
      exact ⟨hlocal, h _ hmem⟩
    have hfed := handleAll_presses (s := s.seenAs { s.outlook with pane := .editor }) rfl hkeys
    rw [foldl_edit_seenAs] at hfed
    exact ⟨_, _, handleAll_eq s events h, hfed, rfl, rfl, rfl, (Pane.iterate_mod _ _).symm,
      (NumberFormat.iterate_mod _ _).symm, rfl, rfl⟩

/-- keys in every pane, with a release and the mouse among them -/
def roundTrip : List Event :=
  [.press (.char 'x'), .press .tab, .press .down, .press .up, .press .up, .press .down, .press .down, .press .tab,
    .press .down, .release .escape, .press (.char 'y'), .mouse, .press .tab, .press (.char 'y'), .press .down,
    .press formatKey, .press .tab, .press .left, .press (.char 'z')]

/-- the editor is given `x`, the left arrow and `z`; the other panes have their own arrows -/
theorem panes_isolated_roundTrip : (∀ event ∈ roundTrip, ¬ event.Presses .escape) ∧
    ∃ last : Session, (ofListing [] none 5 : Session).handleAll roundTrip = some last ∧
      last.editor.lines = [['z', 'x']] ∧ last.pane = .editor ∧ last.format = .binary ∧ last.registersScroll = 2 ∧
      last.setupScroll = 1 := by
  have hescape : ∀ event ∈ roundTrip, ¬ event.Presses .escape := by decide +kernel
  obtain ⟨last, edited, hlast, hedited, heditor, -, -, hpane, hformat, hregisters, hsetup⟩ :=
    (panes_isolated (ofListing [] none 5 : Session) roundTrip).2.1 hescape
  have hlines : ((ofListing [] none 5 : Session).handleAll
      ([Key.char 'x', .left, .char 'z'].map Event.press)).map (fun s => s.editor.lines) = some [['z', 'x']] := by
    decide +kernel
  have hkeys : keysFor Pane.editor .editor roundTrip = [.char 'x', .left, .char 'z'] := by decide +kernel
  obtain ⟨fed, hfed, hfedlines⟩ := Option.map_eq_some_iff.1 hlines
  have hsame : fed = edited := by
    refine Option.some.inj (hfed.symm.trans ?_)
    rw [← hkeys]
    exact hedited
  refine ⟨hescape, last, hlast, ?_, hpane.trans (by decide), hformat.trans (by decide),
    hregisters.trans (by decide +kernel), hsetup.trans (by decide +kernel)⟩
  rw [heditor, ← hsame]
  exact hfedlines

end Session

end MemorySetup.Interactive
