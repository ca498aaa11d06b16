/-
The entry word of an executable, and its four views.

A file has a header if it reaches past the four bytes of the entry word, whatever else is in it (`ofBytes_eq_ok_iff`,
`ofBytes_eq_error_iff`); reading it can also fail for the name and for want of the file (`read_eq_error_iff`). The
header shows the word as an address, as an address in an emulator, and as the text of its bytes in two orders. Each view
is read back by a reader of its own:
- `bigEndian` and `littleEndian` give the number of bytes in either order (`bigEndian_wordBytes`);
- `readGroups?` reads two-digit groups apart by blanks, `readPairs?` digits without separators; both undo the writing of
  bytes (`readGroups?_intercalate`, `readPairs?_flatMap`), since each byte is two digits (`readByte?_byteText`).
`entry_word_read_back`: the views of a word give the word again, so no two words share a view.
-/
import Mathlib.Data.List.Basic
import Mathlib.Data.Nat.Digits.Defs
import MemorySetup.Executable.Header
import MemorySetup.Proofs.Numerals

namespace MemorySetup.Executable

open Text

/-! ## Words and bytes -/

/-- the number that bytes stand for, the least significant first -/
def littleEndian (bytes : List UInt8) : Nat :=
  Nat.ofDigits 256 (bytes.map UInt8.toNat)

/-- the number that bytes stand for, the most significant first -/
def bigEndian (bytes : List UInt8) : Nat :=
  littleEndian bytes.reverse

theorem littleEndian_lt (bytes : List UInt8) : littleEndian bytes < 256 ^ bytes.length := by
  have hbytes : ∀ d ∈ bytes.map UInt8.toNat, d < 256 := by
    intro d hd
    obtain ⟨b, -, rfl⟩ := List.mem_map.1 hd
    exact b.toNat_lt
  have hlt := Nat.ofDigits_lt_base_pow_length (by decide) hbytes
  rwa [List.length_map] at hlt

/-- the four bytes of a word, the most significant first -/
def wordBytes (word : UInt32) : List UInt8 :=
  [(word >>> 24).toUInt8, (word >>> 16).toUInt8, (word >>> 8).toUInt8, word.toUInt8]

theorem toNat_shiftRight_toUInt8 (word shift : UInt32) (h : shift.toNat < 32) :
    (word >>> shift).toUInt8.toNat = word.toNat / 2 ^ shift.toNat % 256 := by
  rw [UInt32.toNat_toUInt8, UInt32.toNat_shiftRight, Nat.mod_eq_of_lt h, Nat.shiftRight_eq_div_pow]

theorem bigEndian_wordBytes (word : UInt32) : bigEndian (wordBytes word) = word.toNat := by
  have hlt := word.toNat_lt
  have h24 : (word >>> 24).toUInt8.toNat = word.toNat / 2 ^ 24 % 256 := toNat_shiftRight_toUInt8 word 24 (by decide)
  have h16 : (word >>> 16).toUInt8.toNat = word.toNat / 2 ^ 16 % 256 := toNat_shiftRight_toUInt8 word 16 (by decide)
  have h8 : (word >>> 8).toUInt8.toNat = word.toNat / 2 ^ 8 % 256 := toNat_shiftRight_toUInt8 word 8 (by decide)
  have hsum : bigEndian (wordBytes word) = word.toUInt8.toNat + 256 * ((word >>> 8).toUInt8.toNat +
      256 * ((word >>> 16).toUInt8.toNat + 256 * (word >>> 24).toUInt8.toNat)) := by
    simp [bigEndian, littleEndian, wordBytes, Nat.ofDigits_cons]
  rw [hsum, h24, h16, h8, UInt32.toNat_toUInt8]
  omega

/-! ## Texts of bytes -/

/-- a byte from two hexadecimal digits -/
def readByte? (s : List Char) : Option UInt8 :=
  if s.length = 2 then (readNumeral? 16 s).map UInt8.ofNat else none

/-- bytes from groups of two digits, one blank between them -/
def readGroups? (s : List Char) : Option (List UInt8) :=
  (s.splitOn ' ').mapM readByte?

/-- bytes from digits without separators -/
def readPairs? : List Char → Option (List UInt8)
  | [] => some []
  | [_] => none
  | high :: low :: rest => do
    let byte ← readByte? [high, low]
    let bytes ← readPairs? rest
    return byte :: bytes

theorem length_byteText (b : UInt8) : (Header.byteText b).length = 2 :=
  length_paddedNumeral_of_lt (by decide) (by decide) b.toNat_lt

theorem readByte?_byteText (b : UInt8) : readByte? (Header.byteText b) = some b := by
  rw [readByte?, if_pos (length_byteText b), Header.byteText, readNumeral?_paddedNumeral (by decide) (by decide)]
  exact congrArg some UInt8.ofNat_toNat

theorem blank_notMem_byteText (b : UInt8) : ' ' ∉ Header.byteText b := by
  intro h
  obtain ⟨d, hd, hblank⟩ := mem_paddedNumeral (by decide) h
  have hall : ∀ d < 16, d.digitChar.toUpper ≠ ' ' := by decide
  exact hall d hd hblank.symm

theorem mapM_readByte? (bytes : List UInt8) : (bytes.map Header.byteText).mapM readByte? = some bytes := by
  induction bytes with
  | nil => rfl
  | cons b bytes ih => rw [List.map_cons, List.mapM_cons, readByte?_byteText, ih]; rfl

theorem readGroups?_intercalate {bytes : List UInt8} (hne : bytes ≠ []) :
    readGroups? (List.intercalate [' '] (bytes.map Header.byteText)) = some bytes := by
  have hpieces : ∀ piece ∈ bytes.map Header.byteText, ' ' ∉ piece := by
    intro piece hpiece
    obtain ⟨b, -, rfl⟩ := List.mem_map.1 hpiece
    exact blank_notMem_byteText b
  rw [readGroups?, List.splitOn_intercalate ' ' hpieces (by simpa using hne), mapM_readByte?]

theorem readPairs?_flatMap (bytes : List UInt8) : readPairs? (bytes.flatMap Header.byteText) = some bytes := by
  induction bytes with
  | nil => rfl
  | cons b bytes ih =>
    obtain ⟨high, low, htext⟩ := List.length_eq_two.1 (length_byteText b)
    have hbyte := readByte?_byteText b
    rw [htext] at hbyte
    rw [List.flatMap_cons, htext, List.cons_append, List.cons_append, List.nil_append, readPairs?, hbyte, ih]
    rfl

/-! ## Headers -/

namespace Header

variable {content : Bytes} {h : Header}

/-- a file has the header whose bytes are the four from the entry offset on -/
theorem ofBytes_eq_ok_iff : ofBytes content = .ok h ↔ (content.drop entryOffset).take 4 = h.bytes := by
  rw [ofBytes]
  rcases content.drop entryOffset with _ | ⟨b0, _ | ⟨b1, _ | ⟨b2, _ | ⟨b3, rest⟩⟩⟩⟩
  case cons.cons.cons.cons =>
    cases h
    simp [bytes]
  all_goals simp [bytes]

/-- a file has no header if it ends before the entry word does -/
theorem ofBytes_eq_error_iff {e : Error} :
    ofBytes content = .error e ↔ content.length < 0x1C ∧ e = .tooSmall content.length := by
  have hlength : (content.drop entryOffset).length = content.length - 0x18 := List.length_drop
  rw [ofBytes]
  generalize content.drop entryOffset = rest at hlength ⊢
  rcases rest with _ | ⟨b0, _ | ⟨b1, _ | ⟨b2, _ | ⟨b3, rest⟩⟩⟩⟩
  case cons.cons.cons.cons =>
    simp only [List.length_cons] at hlength
    simp
    omega
  all_goals
    simp only [List.length_cons, List.length_nil] at hlength
    simp [eq_comm]
    omega

theorem exists_ofBytes_eq_ok (hlength : 0x1C ≤ content.length) : ∃ h, ofBytes content = .ok h := by
  cases hresult : ofBytes content with
  | ok h => exact ⟨h, rfl⟩
  | error e =>
    have := (ofBytes_eq_error_iff.1 hresult).1
    omega

/-- reading a header fails with the name, with the cause of a failed read, or with the size -/
theorem read_eq_error_iff {fs : FileSystem} {path : Path} {e : Error} : read fs path = .error e ↔
    (isName (nameOf path) = false ∧ e = .invalidName (nameOf path)) ∨
      isName (nameOf path) = true ∧ ((∃ cause, fs.read path = .error cause ∧ e = .unreadable cause) ∨
        ∃ content, fs.read path = .ok content ∧ content.length < 0x1C ∧ e = .tooSmall content.length) := by
  constructor
  · intro h
    cases hname : isName (nameOf path) with
    | false =>
      rw [read, hname, if_neg Bool.false_ne_true] at h
      exact Or.inl ⟨rfl, (Except.error.inj h).symm⟩
    | true =>
      rw [read, if_pos hname] at h
      refine Or.inr ⟨rfl, ?_⟩
      cases hread : fs.read path with
      | error cause =>
        rw [hread] at h
        exact Or.inl ⟨cause, rfl, (Except.error.inj h).symm⟩
      | ok content =>
        rw [hread] at h
        exact Or.inr ⟨content, rfl, ofBytes_eq_error_iff.1 h⟩
  · rintro (⟨hname, rfl⟩ | ⟨hname, ⟨cause, hread, rfl⟩ | ⟨content, hread, hsize, rfl⟩⟩)
    · rw [read, hname, if_neg Bool.false_ne_true]
    · rw [read, if_pos hname, hread]
    · rw [read, if_pos hname, hread]
      exact ofBytes_eq_error_iff.2 ⟨hsize, rfl⟩

/-! ## Views -/

theorem toNat_loadAddress (h : Header) : h.loadAddress.toNat = bigEndian h.bytes := by
  have hvalue : ofDigits 256 (h.bytes.map UInt8.toNat) = bigEndian h.bytes := by
    rw [bigEndian, littleEndian, List.map_reverse, Nat.ofDigits_eq_foldr, List.foldr_reverse, ofDigits]
    simp only [Nat.cast_id, Nat.add_comm]
  have hlt : bigEndian h.bytes < 256 ^ 4 := littleEndian_lt h.bytes.reverse
  rw [loadAddress, hvalue]
  exact UInt32.toNat_ofNat_of_lt' (hlt.trans_eq (by decide))

theorem readGroups?_bytesHex (h : Header) : readGroups? h.bytesHex.toList = some h.bytes := by
  rw [bytesHex, String.toList_ofList]
  exact readGroups?_intercalate (List.cons_ne_nil _ _)

theorem readPairs?_reversedHex (h : Header) : readPairs? h.reversedHex.toList = some h.bytes.reverse := by
  rw [reversedHex, String.toList_ofList]
  exact readPairs?_flatMap h.bytes.reverse

theorem length_reversedHex (h : Header) : h.reversedHex.toList.length = 8 := by
  rw [reversedHex, String.toList_ofList]
  simp [bytes, length_byteText]

/-- what the views of a word are read back as -/
structure Shows (h : Header) (word : UInt32) : Prop where
  load : h.loadAddress = word
  mapped : h.mappedAddress - 0x20000000 = word
  groups : (readGroups? h.bytesHex.toList).map bigEndian = some word.toNat
  pairs : (readPairs? h.reversedHex.toList).map littleEndian = some word.toNat

theorem shows_of_bytes {word : UInt32} (hbytes : h.bytes = wordBytes word) : h.Shows word := by
  have hvalue : bigEndian h.bytes = word.toNat := by rw [hbytes, bigEndian_wordBytes]
  have hload : h.loadAddress = word := UInt32.toNat_inj.1 (by rw [toNat_loadAddress, hvalue])
  refine ⟨hload, ?_, ?_, ?_⟩
  · rw [mappedAddress, hload, emulatorBase, UInt32.add_comm, UInt32.add_sub_cancel]
  · rw [readGroups?_bytesHex, Option.map_some, hvalue]
  · rw [readPairs?_reversedHex, Option.map_some]
    exact congrArg some hvalue

end Header

/-- a file that reaches past its entry word, and has the bytes of `word` there -/
def HasEntry (content : Bytes) (word : UInt32) : Prop :=
  0x1C ≤ content.length ∧ (content.drop 0x18).take 4 = wordBytes word

theorem HasEntry.exists_header {content : Bytes} {word : UInt32} (h : HasEntry content word) :
    ∃ header, Header.ofBytes content = .ok header ∧ header.bytes = wordBytes word := by
  obtain ⟨header, hheader⟩ := Header.exists_ofBytes_eq_ok h.1
  exact ⟨header, hheader, (Header.ofBytes_eq_ok_iff.1 hheader).symm.trans h.2⟩

/-- **The entry word can be read back from each of its views.** A file has no header, for want of size, exactly if it is
shorter than 0x1C bytes; otherwise the header is a matter of the four bytes from 0x18 on.
If these are the bytes of a word, most significant first, then the load address is the word; so is the emulator address
less 0x20000000, modulo 2^32; so is the number read from the groups of digits, most significant first; and so is the
number read from the eight digits of the search bytes, least significant first. Hence files with different entry words
differ in all four views.
A path whose last component is no name of an executable is refused with that component, whatever is on the disc; a path
without a last component counts as one with an empty name. -/
theorem entry_word_read_back :
    (∀ content : Bytes,
      (Header.ofBytes content = .error (.tooSmall content.length) ↔ content.length < 0x1C) ∧
      (0x1C ≤ content.length → ∃ h, Header.ofBytes content = .ok h ∧
        ∀ other : Bytes, (other.drop 0x18).take 4 = (content.drop 0x18).take 4 → Header.ofBytes other = .ok h)) ∧
    (∀ (content : Bytes) (word : UInt32), HasEntry content word → ∃ h, Header.ofBytes content = .ok h ∧
      h.loadAddress = word ∧ h.mappedAddress - 0x20000000 = word ∧
      (readGroups? h.bytesHex.toList).map bigEndian = some word.toNat ∧
      h.reversedHex.toList.length = 8 ∧ (readPairs? h.reversedHex.toList).map littleEndian = some word.toNat) ∧
    (∀ (content content' : Bytes) (word word' : UInt32) (h h' : Header), HasEntry content word →
      HasEntry content' word' → Header.ofBytes content = .ok h → Header.ofBytes content' = .ok h' →
      h.loadAddress = h'.loadAddress ∨ h.mappedAddress = h'.mappedAddress ∨ h.bytesHex = h'.bytesHex ∨
        h.reversedHex = h'.reversedHex → word = word') ∧
    ∀ path : Path, isName ((Path.fileName? path).elim [] readUtf8Lossy) = false → ∀ fs : FileSystem,
      Header.read fs path = .error (.invalidName ((Path.fileName? path).elim [] readUtf8Lossy)) := by
  refine ⟨fun content => ⟨?_, fun hlength => ?_⟩, fun content word hentry => ?_, ?_, fun path hname fs => ?_⟩
  · rw [Header.ofBytes_eq_error_iff]
    exact and_iff_left rfl
  · obtain ⟨h, hheader⟩ := Header.exists_ofBytes_eq_ok hlength
    refine ⟨h, hheader, fun other hother => Header.ofBytes_eq_ok_iff.2 (hother.trans ?_)⟩
    exact Header.ofBytes_eq_ok_iff.1 hheader
  · obtain ⟨h, hheader, hbytes⟩ := hentry.exists_header
    obtain ⟨hload, hmapped, hgroups, hpairs⟩ := Header.shows_of_bytes hbytes
    exact ⟨h, hheader, hload, hmapped, hgroups, h.length_reversedHex, hpairs⟩
  · intro content content' word word' h h' hentry hentry' hheader hheader' hviews
    have hshows : h.Shows word :=
      Header.shows_of_bytes ((Header.ofBytes_eq_ok_iff.1 hheader).symm.trans hentry.2)
    have hshows' : h'.Shows word' :=
      Header.shows_of_bytes ((Header.ofBytes_eq_ok_iff.1 hheader').symm.trans hentry'.2)
    rcases hviews with hview | hview | hview | hview
    · rw [← hshows.load, hview, hshows'.load]
    · rw [← hshows.mapped, hview, hshows'.mapped]
    · have hgroups := hshows.groups
      rw [hview, hshows'.groups] at hgroups
      exact UInt32.toNat_inj.1 (Option.some.inj hgroups).symm
    · have hpairs := hshows.pairs
      rw [hview, hshows'.pairs] at hpairs
      exact UInt32.toNat_inj.1 (Option.some.inj hpairs).symm
  · have hname' : isName (Header.nameOf path) = false := hname
    rw [Header.read, hname', if_neg Bool.false_ne_true]
    rfl

/-- the start of an executable with the given entry word, and nothing after it -/
def entryFile (word : UInt32) : Bytes :=
  List.replicate 0x18 0x7F ++ wordBytes word

/-- an entry word whose emulator address wraps around, and a path that is refused without a look at the disc -/
theorem entry_word_read_back_wrapped :
    (∃ h, Header.ofBytes (entryFile 0xF0100008) = .ok h ∧ h.loadAddress = 0xF0100008 ∧ h.mappedAddress = 0x10100008 ∧
      h.bytesHex = "F0 10 00 08" ∧ h.reversedHex = "080010F0" ∧
      ∀ content word h', HasEntry content word → Header.ofBytes content = .ok h' → h'.bytesHex = "F0 10 00 08" →
        word = 0xF0100008) ∧
    Header.ofBytes ((entryFile 0xF0100008).take 0x1B) = .error (.tooSmall 0x1B) ∧
    ∀ fs : FileSystem, Header.read fs (Path.ofString "disc/game.elf") =
      .error (.invalidName ['g', 'a', 'm', 'e', '.', 'e', 'l', 'f']) := by
  have hentry : HasEntry (entryFile 0xF0100008) 0xF0100008 := ⟨by decide, by decide⟩
  have hheader : Header.ofBytes (entryFile 0xF0100008) = .ok ⟨0xF0, 0x10, 0x00, 0x08⟩ := by decide
  obtain ⟨hsize, hviews, hinjective, hread⟩ := entry_word_read_back
  obtain ⟨h, hok, hload, -⟩ := hviews _ _ hentry
  obtain rfl := Except.ok.inj (hheader.symm.trans hok)
  refine ⟨⟨_, hheader, hload, by decide, by decide, by decide, fun content word h' hentry' hheader' hgroups => ?_⟩,
    ?_, fun fs => hread _ (by decide) fs⟩
  · refine hinjective _ _ _ _ _ _ hentry' hentry hheader' hheader (Or.inr (Or.inr (Or.inl ?_)))
    rw [hgroups]
    decide
  · exact (hsize _).1.2 (by decide)

end MemorySetup.Executable
