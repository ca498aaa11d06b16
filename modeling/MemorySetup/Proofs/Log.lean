/-
The log of a session is the history of its heap base.

A session notes the heap base whenever it is another one than before. `changes initial values n` are the places at which
a sequence takes another value than right before, and two facts about it carry the log over:
- `isChain_changes`: the values at these places never repeat the one before;
- `getLast?_changes`: the last of them is the value that the sequence has.

An `Operation` puts other lines into the editor, changes the lookback, or does nothing; the report is made anew after
each. `logs_operateAll`: the log has one message for each change of the heap base, in order. Since different heap bases
have different messages (`baseMessage_injective`), and since the base is a matter of the text in the editor alone
(`heapBase?_of_fresh`), `log_is_history` says of every run of operations that the log only grows, that no message
repeats the one before it, that the last one describes the present heap base, and that nothing is logged without a
change of the text.
-/
import MemorySetup.Proofs.Freshness
import MemorySetup.Proofs.Lookback
import MemorySetup.Proofs.Numerals

namespace MemorySetup.Interactive

open Text

/-! ## Changes of a sequence -/

section Changes

variable {β : Type} [DecidableEq β] {initial : β} {values other : Nat → β}

/-- the value right before place `k` of a sequence; before the first place stands `initial` -/
def valueBefore (initial : β) (values : Nat → β) : Nat → β
  | 0 => initial
  | k + 1 => values k

/-- the places among the first `n` at which a sequence takes another value than right before -/
def changes (initial : β) (values : Nat → β) (n : Nat) : List Nat :=
  (List.range n).filter fun k => values k ≠ valueBefore initial values k

theorem changes_succ (initial : β) (values : Nat → β) (n : Nat) :
    changes initial values (n + 1) =
      changes initial values n ++ if values n = valueBefore initial values n then [] else [n] := by
  rw [changes, List.range_succ, List.filter_append]
  congr 1
  by_cases h : values n = valueBefore initial values n <;> simp [h]

theorem map_changes_congr {γ : Type} (f : β → γ) {n : Nat} (h : ∀ k < n, values k = other k) :
    ((changes initial values n).map fun k => f (values k)) = (changes initial other n).map fun k => f (other k) := by
  induction n with
  | zero => rfl
  | succ n ih =>
    have hbefore : valueBefore initial values n = valueBefore initial other n := by
      cases n with
      | zero => rfl
      | succ n => exact h n (by omega)
    rw [changes_succ, changes_succ, List.map_append, List.map_append, ih fun k hk => h k (by omega), hbefore,
      h n (Nat.lt_succ_self n)]
    split_ifs
    · rfl
    · simp [h n (Nat.lt_succ_self n)]

/-- the last change gave a sequence the value that it has -/
theorem getLast?_changes (initial : β) (values : Nat → β) (n : Nat) :
    ((changes initial values n).map values).getLast?.getD initial = valueBefore initial values n := by
  induction n with
  | zero => rfl
  | succ n ih =>
    rw [changes_succ]
    split_ifs with h
    · rw [List.append_nil, ih]
      exact h.symm
    · rw [List.map_append, List.map_singleton, List.getLast?_concat]
      rfl

/-- no change gives a sequence the value that it had -/
theorem isChain_changes (initial : β) (values : Nat → β) (n : Nat) :
    (initial :: (changes initial values n).map values).IsChain (· ≠ ·) := by
  induction n with
  | zero => exact List.isChain_singleton initial
  | succ n ih =>
    rw [changes_succ]
    split_ifs with h
    · rwa [List.append_nil]
    · rw [List.map_append, List.map_singleton, ← List.cons_append]
      refine ih.append (List.isChain_singleton _) fun x hx y hy => ?_
      rw [List.getLast?_cons, getLast?_changes] at hx
      obtain rfl := Option.some.inj hx
      obtain rfl := Option.some.inj hy
      exact Ne.symm h

end Changes

/-! ## Messages -/

theorem addressText_injective : Function.Injective addressText := fun _ _ h =>
  UInt32.toNat_inj.1 (hexText_injective 8 h)

theorem length_addressText (address : UInt32) : (addressText address).toList.length = 10 := by
  rw [addressText, hexText, String.toList_ofList]
  exact length_hexadecimal (by decide) address.toNat_lt

/-- how the message on a heap base ends -/
def baseEnding (base : UInt32) : String :=
  if 0x00100000 ≤ base.toNat ∧ base.toNat ≤ 0x01FFFFFF then " is inside EE RAM"
  else " is outside EE RAM, possibly BIOS/system region"

theorem baseMessage_some (base : UInt32) :
    baseMessage (some base) = "Heap base " ++ addressText base ++ baseEnding base := by
  have hram : inRam base = true ↔ 0x00100000 ≤ base.toNat ∧ base.toNat ≤ 0x01FFFFFF := by
    simp [inRam, ramStart, ramEnd, UInt32.le_iff_toNat_le]
  simp only [baseMessage, baseEnding, ← hram]
  split_ifs <;> rfl

/-- different heap bases have different messages -/
theorem baseMessage_injective : Function.Injective baseMessage := by
  have hnone : ∀ base, baseMessage none ≠ baseMessage (some base) := by
    intro base h
    -- the messages differ in their sixth character
    have hchar := congrArg (fun m => m.toList[5]?) h
    simp only [baseMessage_some, String.toList_append, List.append_assoc] at hchar
    rw [List.getElem?_append_left (by decide)] at hchar
    exact absurd hchar (by decide)
  intro a b h
  cases a with
  | none =>
    cases b with
    | none => rfl
    | some b => exact absurd h (hnone b)
  | some a =>
    cases b with
    | none => exact absurd h.symm (hnone a)
    | some b =>
      rw [baseMessage_some, baseMessage_some, ← String.toList_inj] at h
      simp only [String.toList_append, List.append_assoc, List.append_cancel_left_eq] at h
      have haddress := (List.append_inj h (by rw [length_addressText, length_addressText])).1
      exact congrArg some (addressText_injective (String.toList_inj.1 haddress))

namespace Session

/-! ## Operations -/

/-- what is done to a session from outside; the report is made anew afterwards -/
inductive Operation where
  | setLines (ls : List Line)
  | setLookback (lookback : Nat)
  | nothing
  deriving DecidableEq, Repr

variable {α κ : Type} [TextArea α κ]

def operate (s : Session α) : Operation → Session α
  | .setLines ls => (s.setLines ls).reanalyze
  | .setLookback lookback => (s.setLookback lookback).reanalyze
  | .nothing => s.reanalyze

def operateAll (s : Session α) (ops : List Operation) : Session α :=
  ops.foldl operate s

/-- the heap base after the first `k` operations -/
def baseAfter (s : Session α) (ops : List Operation) (k : Nat) : Option UInt32 :=
  (s.operateAll (ops.take k)).report.heapBase?

theorem operateAll_concat (s : Session α) (ops : List Operation) (op : Operation) :
    s.operateAll (ops ++ [op]) = (s.operateAll ops).operate op := by
  rw [operateAll, List.foldl_append]
  rfl

/-- an operation logs the new heap base if it is another one -/
theorem logs_operate (s : Session α) (op : Operation) :
    (s.operate op).logs = s.logs ++ changeMessages s.report.heapBase? (s.operate op).report.heapBase? := by
  cases op <;> rfl

theorem fresh_operate (s : Session α) (op : Operation) : Fresh (s.operate op).lookback (s.operate op) := by
  cases op with
  | setLines ls => exact fresh_reanalyze (s.setLines ls)
  | setLookback lookback => exact fresh_reanalyze (s.setLookback lookback)
  | nothing => exact fresh_reanalyze s

theorem fresh_operateAll {s : Session α} (h : Fresh s.lookback s) (ops : List Operation) :
    Fresh (s.operateAll ops).lookback (s.operateAll ops) := by
  induction ops using List.reverseRecOn with
  | nil => exact h
  | append_singleton ops op _ =>
    rw [operateAll_concat]
    exact fresh_operate _ op

/-- the heap base is a matter of the text, whatever the lookback -/
theorem heapBase?_of_fresh {s other : Session α} {lookback lookback' : Nat} (hs : Fresh lookback s)
    (hother : Fresh lookback' other) (htext : TextArea.text s.editor = TextArea.text other.editor) :
    s.report.heapBase? = other.report.heapBase? := by
  rw [hs.report_eq, hother.report_eq, htext, MemoryReport.heapBase?_ofText, MemoryReport.heapBase?_ofText]

/-- an operation that leaves the text leaves the log -/
theorem logs_operate_of_text_eq {s : Session α} {lookback : Nat} (h : Fresh lookback s) {op : Operation}
    (htext : TextArea.text (s.operate op).editor = TextArea.text s.editor) : (s.operate op).logs = s.logs := by
  rw [logs_operate, heapBase?_of_fresh (fresh_operate s op) h htext, changeMessages, if_pos rfl, List.append_nil]

theorem logs_prefix_operateAll (s : Session α) (ops : List Operation) : s.logs <+: (s.operateAll ops).logs := by
  induction ops using List.reverseRecOn with
  | nil => exact List.prefix_refl _
  | append_singleton ops op ih =>
    rw [operateAll_concat, logs_operate]
    exact ih.trans (List.prefix_append _ _)

/-- the log only grows -/
theorem logs_operateAll_take_prefix (s : Session α) (ops : List Operation) (n : Nat) :
    (s.operateAll (ops.take n)).logs <+: (s.operateAll ops).logs := by
  have hsplit : s.operateAll ops = (s.operateAll (ops.take n)).operateAll (ops.drop n) := by
    rw [operateAll, operateAll, operateAll, ← List.foldl_append, List.take_append_drop]
  rw [hsplit]
  exact logs_prefix_operateAll _ _

/-- **The log after operations**: one message for each change of the heap base, in order -/
theorem logs_operateAll {s : Session α} {earlier : List String}
    (h : s.logs = earlier ++ changeMessages none s.report.heapBase?) (ops : List Operation) :
    (s.operateAll ops).logs =
      earlier ++ (changes none (s.baseAfter ops) (ops.length + 1)).map fun k => baseMessage (s.baseAfter ops k) := by
  induction ops using List.reverseRecOn with
  | nil =>
    have hbase : s.baseAfter [] 0 = s.report.heapBase? := rfl
    change s.logs = _
    rw [h, List.length_nil, changes_succ]
    simp only [changes, List.range_zero, List.filter_nil, List.nil_append, valueBefore, changeMessages, hbase]
    split_ifs <;> simp [hbase]
  | append_singleton ops op ih =>
    have hsame : ∀ k < ops.length + 1, s.baseAfter (ops ++ [op]) k = s.baseAfter ops k := by
      intro k hk
      rw [baseAfter, baseAfter, List.take_append_of_le_length (by omega)]
    have hbefore : valueBefore none (s.baseAfter (ops ++ [op])) (ops.length + 1) =
        (s.operateAll ops).report.heapBase? := by
      change s.baseAfter (ops ++ [op]) ops.length = _
      rw [baseAfter, List.take_left]
    have hnow : s.baseAfter (ops ++ [op]) (ops.length + 1) = ((s.operateAll ops).operate op).report.heapBase? := by
      rw [baseAfter, List.take_of_length_le (by simp), operateAll_concat]
    have hlatest : ((changes none (s.baseAfter (ops ++ [op])) (ops.length + 1 + 1)).map fun k =>
          baseMessage (s.baseAfter (ops ++ [op]) k)) =
        ((changes none (s.baseAfter ops) (ops.length + 1)).map fun k => baseMessage (s.baseAfter ops k)) ++
          changeMessages (s.operateAll ops).report.heapBase? ((s.operateAll ops).operate op).report.heapBase? := by
      rw [changes_succ, List.map_append, map_changes_congr baseMessage hsame, hbefore, hnow, changeMessages]
      split_ifs <;> simp [hnow]
    rw [operateAll_concat, logs_operate, ih, List.length_append, List.length_singleton, hlatest, List.append_assoc]

/-- **The log is the history of the heap base.** Take a listing with or without an executable, and any operations. The
log is the line on the executable, if there is one, followed by one message for each time that the heap base was another
one than before, where there is none before the first. A message names the heap base and says on which side of the
bounds of main memory it lies, or says that there is none. So the log only grows; no message repeats the one right
before it; the last one describes the present heap base, and without a message there is none; and an operation after
which the editor has the same text logs nothing. -/
theorem log_is_history [LawfulTextArea α] (listing : List Char) (header? : Option Executable.Header) (lookback : Nat)
    (ops : List Operation) :
    let first : Session α := ofListing listing header? lookback
    let last := first.operateAll ops
    let messages :=
      (changes none (first.baseAfter ops) (ops.length + 1)).map fun k => baseMessage (first.baseAfter ops k)
    last.logs = header?.toList.map headerMessage ++ messages ∧
    (∀ base : UInt32, baseMessage (some base) = "Heap base " ++ addressText base ++
      if 0x00100000 ≤ base.toNat ∧ base.toNat ≤ 0x01FFFFFF then " is inside EE RAM"
      else " is outside EE RAM, possibly BIOS/system region") ∧
    baseMessage none = "Heap setup (syscall 0x3D) not found" ∧
    (∀ n, (first.operateAll (ops.take n)).logs <+: last.logs) ∧
    messages.IsChain (· ≠ ·) ∧
    (∀ message, messages.getLast? = some message → message = baseMessage last.report.heapBase?) ∧
    (messages = [] → last.report.heapBase? = none) ∧
    ∀ op, TextArea.text (last.operate op).editor = TextArea.text last.editor → (last.operate op).logs = last.logs := by
  intro first last messages
  have hnow : valueBefore none (first.baseAfter ops) (ops.length + 1) = last.report.heapBase? := by
    change first.baseAfter ops ops.length = _
    rw [baseAfter, List.take_length]
  have hlast := getLast?_changes none (first.baseAfter ops) (ops.length + 1)
  rw [hnow] at hlast
  have hmessages : messages = ((changes none (first.baseAfter ops) (ops.length + 1)).map (first.baseAfter ops)).map
      baseMessage := by
    rw [List.map_map]
    rfl
  refine ⟨logs_operateAll rfl ops, baseMessage_some, rfl, logs_operateAll_take_prefix first ops, ?_, ?_, ?_, ?_⟩
  · rw [hmessages, List.isChain_map]
    exact (isChain_changes none (first.baseAfter ops) (ops.length + 1)).tail.imp
      fun _ _ hne heq => hne (baseMessage_injective heq)
  · intro message hmessage
    rw [hmessages, List.getLast?_map] at hmessage
    obtain ⟨base, hbase, rfl⟩ := Option.map_eq_some_iff.1 hmessage
    rw [hbase] at hlast
    exact congrArg baseMessage hlast
  · intro hempty
    rw [hmessages, List.map_eq_nil_iff] at hempty
    rw [hempty] at hlast
    exact hlast.symm
  · intro op htext
    have hfirst : Fresh first.lookback first := fresh_ofListing listing header? lookback
    exact logs_operate_of_text_eq (fresh_operateAll hfirst ops) htext

/-- a heap setup with the given upper half of its base -/
def heapLines (upper : List Char) : List Line :=
  [['l', 'u', 'i', ' ', 'a', '0', ',', '0', 'x'] ++ upper,
    prepareHeapLine, syscallWord]

/-- the base leaves main memory, stays while the lookback changes, comes back, and is gone -/
def baseOperations : List Operation :=
  [.nothing, .setLines (heapLines ['2', '0', '0']), .setLookback 0, .setLines (heapLines ['1', '0']), .setLines []]

/-- the log of these operations, after the line on an executable; one more operation on the same text adds nothing -/
theorem log_is_history_base :
    ((ofListing (unlines (heapLines ['1', '0'])) (some ⟨0x00, 0x10, 0x00, 0x08⟩) 5 : Session).operateAll
        baseOperations).logs =
      ["ELF load address 0x00100008 mapped to 0x20100008 (search bytes 08001000)",
        "Heap base 0x00100000 is inside EE RAM",
        "Heap base 0x02000000 is outside EE RAM, possibly BIOS/system region",
        "Heap base 0x00100000 is inside EE RAM", "Heap setup (syscall 0x3D) not found"] ∧
    ((ofListing (unlines (heapLines ['1', '0'])) (some ⟨0x00, 0x10, 0x00, 0x08⟩) 5 : Session).operateAll
        (baseOperations ++ [.nothing])).logs =
      ((ofListing (unlines (heapLines ['1', '0'])) (some ⟨0x00, 0x10, 0x00, 0x08⟩) 5 : Session).operateAll
        baseOperations).logs := by
  obtain ⟨hlogs, -, -, -, -, -, -, hinert⟩ :=
    @log_is_history Editor Key _ _ (unlines (heapLines ['1', '0'])) (some ⟨0x00, 0x10, 0x00, 0x08⟩) 5 baseOperations
  refine ⟨hlogs.trans (by decide +kernel), ?_⟩
  rw [operateAll_concat]
  exact hinert .nothing rfl

end Session

end MemorySetup.Interactive
