/-
A run prints all of its output or none.

What a run does is a matter of its arguments and of the file system, however the arguments were written down. One that
has a listing and is not interactive has one of three endings (`Ending`): the listing holds a text and the executable,
if one is given, has a header, and both are reported on; or the listing cannot be read, whatever the executable is; or
the listing holds a text and the executable fails. Nothing is printed before the last read, so the ending decides all
that is shown.
- `Wording`, `ListingProblem` and `ExecutableProblem`: what can be wrong with either file, with the texts that say so;
- `readListing_cases`, `readHeader_cases`: what each of the two reads can give;
- `execute_ending`: every such run has one of the endings;
- `HoldsText.unique`, `ListingProblem.not_holdsText`, `ReadsHeader.unique`, `ExecutableProblem.not_readsHeader`: the
  files decide which one it is, and what is reported. That a file holds a text is said with core's encoding
  (`encodeUtf8`).

The main statement is `execute_all_or_nothing`.
-/
import MemorySetup.CommandLine.Run
import MemorySetup.Files.Folder
import MemorySetup.Proofs.EntryWord
import MemorySetup.Proofs.Utf8

namespace MemorySetup.CommandLine

open Text

/-! ## What is read -/

/-- a file holds a text -/
def HoldsText (fs : FileSystem) (name : String) (text : List Char) : Prop :=
  fs.read (Path.ofString name) = .ok (encodeUtf8 text)

/-- the words of the operating system for the causes of a failed read -/
inductive Wording : ReadError → String → Prop
  | notFound : Wording .notFound "No such file or directory (os error 2)"
  | notADirectory : Wording .notADirectory "Not a directory (os error 20)"
  | isADirectory : Wording .isADirectory "Is a directory (os error 21)"
  | nameTooLong : Wording .nameTooLong "File name too long (os error 36)"
  | permissionDenied : Wording .permissionDenied "Permission denied (os error 13)"
  | zeroByteInPath : Wording .zeroByteInPath "file name contained an unexpected NUL byte"
  | other (message : String) : Wording (.other message) message

theorem wording_iff {cause : ReadError} {words : String} : Wording cause words ↔ cause.message = words := by
  constructor
  · intro h
    cases h <;> rfl
  · rintro rfl
    cases cause <;> constructor

/-- why a listing cannot be read, and the text that says so -/
inductive ListingProblem (fs : FileSystem) (name : String) : String → Prop
  | unreadable {cause : ReadError} {words : String} (h : fs.read (Path.ofString name) = .error cause)
      (hwords : Wording cause words) : ListingProblem fs name words
  | damaged {content : Bytes} (h : fs.read (Path.ofString name) = .ok content)
      (hcontent : ∀ text, content ≠ encodeUtf8 text) : ListingProblem fs name "stream did not contain valid UTF-8"

/-- what is read of the executable, if one is given -/
def ReadsHeader (fs : FileSystem) (executable? : Option String) (header? : Option Executable.Header) : Prop :=
  Option.Rel (fun path header => Executable.Header.read fs (Path.ofString path) = .ok header) executable? header?

/-- why an executable has no header, and the texts that say so; the words for a failed read stand there twice, as the
error and as its cause -/
inductive ExecutableProblem (fs : FileSystem) (path : String) : List String → Prop
  | misnamed {name : List Char} (hname : Executable.Header.nameOf (Path.ofString path) = name)
      (h : Executable.isName name = false) :
      ExecutableProblem fs path
        ["invalid file name '" ++ String.ofList name ++ "', expected something like SLUS_214.90 or SLES_123.45"]
  | unreadable {cause : ReadError} {words : String}
      (hname : Executable.isName (Executable.Header.nameOf (Path.ofString path)) = true)
      (h : fs.read (Path.ofString path) = .error cause) (hwords : Wording cause words) :
      ExecutableProblem fs path [words, words]
  | short {content : Bytes} (hname : Executable.isName (Executable.Header.nameOf (Path.ofString path)) = true)
      (h : fs.read (Path.ofString path) = .ok content) (hsize : content.length < 0x1C) :
      ExecutableProblem fs path ["file too small (" ++ toString content.length ++ " bytes)"]

section Listing

variable {fs : FileSystem} {name : String}

/-- the encoding of a text determines it -/
theorem HoldsText.unique {text other : List Char} (h : HoldsText fs name text) (h' : HoldsText fs name other) :
    text = other := by
  have hbytes : encodeUtf8 text = encodeUtf8 other := Except.ok.inj (h.symm.trans h')
  have hread := readUtf8?_eq_some_iff.2 hbytes
  rw [readUtf8?_eq_some_iff.2 rfl] at hread
  exact Option.some.inj hread

theorem ListingProblem.not_holdsText {cause : String} (h : ListingProblem fs name cause) (text : List Char) :
    ¬ HoldsText fs name text := by
  intro htext
  rw [HoldsText] at htext
  cases h with
  | unreadable h hwords =>
    rw [h] at htext
    cases htext
  | damaged h hcontent =>
    rw [h] at htext
    exact hcontent text (Except.ok.inj htext)

/-- a listing is read, or there is a problem with it, which is then reported -/
theorem readListing_cases (fs : FileSystem) (name : String) :
    (∃ text, HoldsText fs name text ∧ readListing fs name = .ok text) ∨
      ∃ cause, ListingProblem fs name cause ∧
        readListing fs name = .error ⟨"failed to read listing " ++ name, [cause]⟩ := by
  unfold readListing
  split
  · rename_i cause hread
    exact Or.inr ⟨cause.message, .unreadable hread (wording_iff.2 rfl), rfl⟩
  · rename_i content hread
    split
    · rename_i text htext
      refine Or.inl ⟨text, ?_, rfl⟩
      rw [HoldsText, hread, readUtf8?_eq_some_iff.1 htext]
    · rename_i hnone
      refine Or.inr ⟨_, .damaged hread fun text hcontent => ?_, rfl⟩
      rw [readUtf8?_eq_some_iff.2 hcontent] at hnone
      cases hnone

end Listing

section Executable

variable {fs : FileSystem} {path : String}

theorem executableCauses_tooSmall (size : Nat) :
    executableCauses (.tooSmall size) = ["file too small (" ++ toString size ++ " bytes)"] :=
  congrArg (fun digits => ["file too small (" ++ digits ++ " bytes)"]) (decimalText_eq size)

/-- the problems with an executable are the errors that reading its header gives, in the words for them -/
theorem executableProblem_iff {causes : List String} : ExecutableProblem fs path causes ↔
    ∃ error, Executable.Header.read fs (Path.ofString path) = .error error ∧ executableCauses error = causes := by
  simp only [Executable.Header.read_eq_error_iff]
  constructor
  · intro h
    cases h with
    | misnamed hname h =>
      subst hname
      exact ⟨_, Or.inl ⟨h, rfl⟩, rfl⟩
    | @unreadable cause words hname h hwords =>
      obtain rfl := wording_iff.1 hwords
      exact ⟨_, Or.inr ⟨hname, Or.inl ⟨cause, h, rfl⟩⟩, rfl⟩
    | @short content hname h hsize =>
      exact ⟨_, Or.inr ⟨hname, Or.inr ⟨content, h, hsize, rfl⟩⟩, executableCauses_tooSmall content.length⟩
  · rintro ⟨error, ⟨hname, rfl⟩ | ⟨hname, ⟨cause, h, rfl⟩ | ⟨content, h, hsize, rfl⟩⟩, rfl⟩
    · exact .misnamed rfl hname
    · exact .unreadable hname h (wording_iff.2 rfl)
    · rw [executableCauses_tooSmall]
      exact .short hname h hsize

/-- the executable has a header, or is not given, or has a problem, which is then reported -/
theorem readHeader_cases (fs : FileSystem) (executable? : Option String) :
    (∃ header?, ReadsHeader fs executable? header? ∧ executable?.mapM (readHeader fs) = .ok header?) ∨
      ∃ path causes, executable? = some path ∧ ExecutableProblem fs path causes ∧
        executable?.mapM (readHeader fs) = .error ⟨"failed to read ELF header from " ++ path, causes⟩ := by
  cases executable? with
  | none => exact Or.inl ⟨none, .none, rfl⟩
  | some path =>
    cases hread : Executable.Header.read fs (Path.ofString path) with
    | ok header =>
      refine Or.inl ⟨some header, .some hread, ?_⟩
      simp only [Option.mapM_some, readHeader, hread]
      rfl
    | error error =>
      refine Or.inr ⟨path, executableCauses error, rfl, executableProblem_iff.2 ⟨error, hread, rfl⟩, ?_⟩
      simp only [Option.mapM_some, readHeader, hread]
      rfl

end Executable

namespace ReadsHeader

variable {fs : FileSystem} {executable? : Option String} {header? : Option Executable.Header}

theorem unique {other? : Option Executable.Header} (h : ReadsHeader fs executable? header?)
    (h' : ReadsHeader fs executable? other?) : header? = other? := by
  cases h with
  | none =>
    cases h'
    rfl
  | some h =>
    cases h' with
    | some h' => rw [Except.ok.inj (h.symm.trans h')]

/-- what is read of the executable says whether reading it succeeds -/
theorem exists_iff : (∃ header?, ReadsHeader fs executable? header?) ↔
    ∀ path ∈ executable?, ∃ header, Executable.Header.read fs (Path.ofString path) = .ok header := by
  constructor
  · rintro ⟨_, h⟩ path rfl
    cases h with | @some _ header h => exact ⟨header, h⟩
  · intro h
    cases executable? with
    | none => exact ⟨none, .none⟩
    | some path =>
      obtain ⟨header, hread⟩ := h path rfl
      exact ⟨some header, .some hread⟩

end ReadsHeader

theorem ExecutableProblem.not_readsHeader {fs : FileSystem} {executable? : Option String} {path : String}
    {causes : List String} (h : ExecutableProblem fs path causes) (hpath : executable? = some path)
    (header? : Option Executable.Header) : ¬ ReadsHeader fs executable? header? := by
  obtain ⟨error, herror, -⟩ := executableProblem_iff.1 h
  intro hheader
  rw [hpath] at hheader
  cases hheader with
  | some hread => cases herror.symm.trans hread

/-! ## How a run ends -/

/-- the endings of a run on a listing that is not interactive -/
inductive Ending (fs : FileSystem) (a : Arguments) (name : String) : Outcome → Prop
  | reported {text : List Char} {header? : Option Executable.Header} (htext : HoldsText fs name text)
      (hheader : ReadsHeader fs a.executable? header?) : Ending fs a name (.finished (output text header? a.lookback))
  | listingFailed {cause : String} (h : ListingProblem fs name cause) :
      Ending fs a name (.failed ⟨"failed to read listing " ++ name, [cause]⟩)
  | executableFailed {text : List Char} {path : String} {causes : List String} (htext : HoldsText fs name text)
      (hpath : a.executable? = some path) (h : ExecutableProblem fs path causes) :
      Ending fs a name (.failed ⟨"failed to read ELF header from " ++ path, causes⟩)

/-- every run on a listing that is not interactive has one of the endings -/
theorem execute_ending (fs : FileSystem) {a : Arguments} {name : String} (hlisting : a.listing? = some name)
    (hmode : a.interactive = false) : Ending fs a name (execute fs a) := by
  have hinputs : readInputs fs a = (readListing fs name >>= fun listing =>
      a.executable?.mapM (readHeader fs) >>= fun header? => pure (listing, header?)) := by
    rw [readInputs, hlisting]
    rfl
  rcases readListing_cases fs name with ⟨text, htext, hread⟩ | ⟨cause, hcause, hread⟩
  · rcases readHeader_cases fs a.executable? with ⟨header?, hheader, hexecutable⟩ |
      ⟨path, causes, hpath, hproblem, hexecutable⟩
    · rw [hread, hexecutable] at hinputs
      have hend : execute fs a = .finished (output text header? a.lookback) := by
        rw [execute, hinputs, hmode, hlisting]
        rfl
      rw [hend]
      exact .reported htext hheader
    · rw [hread, hexecutable] at hinputs
      rw [execute, hinputs]
      exact .executableFailed htext hpath hproblem
  · -- the executable is not looked at
    rw [hread] at hinputs
    rw [execute, hinputs]
    exact .listingFailed hcause

/-- **A run prints all of its output or none.** Of every run on a listing that is not interactive:
- it succeeds exactly if the listing is a file with some text in UTF-8 and the header of the executable, if one is
  given, can be read;
- it then prints the five lines on the executable, if one is given, and the lines of the report on that text, for the
  lookback that is given or else five, each with a newline after it;
- otherwise its code is one, and it prints nothing and fails with one error. This is that of the listing whenever the
  listing cannot be read, be there an executable that fails or not, and else that of the executable. -/
theorem execute_all_or_nothing (fs : FileSystem) {a : Arguments} {name : String} (hlisting : a.listing? = some name)
    (hmode : a.interactive = false) :
    ((execute fs a).exitCode = 0 ↔ (∃ text, HoldsText fs name text) ∧
      ∀ path ∈ a.executable?, ∃ header, Executable.Header.read fs (Path.ofString path) = .ok header) ∧
    (∀ text header?, HoldsText fs name text → ReadsHeader fs a.executable? header? →
      (execute fs a).stdout = String.join (((header?.elim [] fun header =>
        ["ELF bytes @0x18: " ++ header.bytesHex, "Load address: " ++ hexText 8 header.loadAddress.toNat,
          "Mapped PCSX2 EE RAM address: " ++ hexText 8 header.mappedAddress.toNat,
          "Search bytes: " ++ header.reversedHex, ""]) ++
        (MemoryReport.ofText text (a.lookback?.getD 5)).lines).map (· ++ "\n"))) ∧
    ((execute fs a).exitCode ≠ 0 → (execute fs a).exitCode = 1 ∧ (execute fs a).stdout = "" ∧
      ((∀ text, ¬ HoldsText fs name text) → ∃ cause, ListingProblem fs name cause ∧
        execute fs a = .failed ⟨"failed to read listing " ++ name, [cause]⟩) ∧
      ((∃ text, HoldsText fs name text) → ∃ path causes, a.executable? = some path ∧
        ExecutableProblem fs path causes ∧
        execute fs a = .failed ⟨"failed to read ELF header from " ++ path, causes⟩)) := by
  have hend := execute_ending fs hlisting hmode
  have hfailed : ∀ failure, (Outcome.failed failure).exitCode ≠ 0 := fun _ => by simp [Outcome.exitCode]
  rw [← ReadsHeader.exists_iff]
  generalize execute fs a = outcome at hend ⊢
  cases hend with
  | @reported text header? htext hheader =>
    refine ⟨?_, ?_, ?_⟩
    · exact iff_of_true rfl ⟨⟨text, htext⟩, header?, hheader⟩
    · intro other other? hother hother?
      rw [← htext.unique hother, ← hheader.unique hother?]
      rfl
    · intro hcode
      exact absurd rfl hcode
  | @listingFailed cause hcause =>
    refine ⟨?_, ?_, ?_⟩
    · refine iff_of_false (hfailed _) ?_
      rintro ⟨⟨text, htext⟩, -⟩
      exact hcause.not_holdsText text htext
    · intro text _ htext
      exact absurd htext (hcause.not_holdsText text)
    · intro _
      refine ⟨rfl, rfl, fun _ => ⟨cause, hcause, rfl⟩, ?_⟩
      rintro ⟨text, htext⟩
      exact absurd htext (hcause.not_holdsText text)
  | @executableFailed text path causes htext hpath hproblem =>
    refine ⟨?_, ?_, ?_⟩
    · refine iff_of_false (hfailed _) ?_
      rintro ⟨-, header?, hheader⟩
      exact hproblem.not_readsHeader hpath header? hheader
    · intro _ header? _ hheader
      exact absurd hheader (hproblem.not_readsHeader hpath header?)
    · intro _
      refine ⟨rfl, rfl, fun hnone => absurd htext (hnone text), fun _ => ⟨path, causes, hpath, hproblem, rfl⟩⟩

/-- a folder with an executable, a listing, and a listing that breaks off inside a character -/
def gameFolder : Folder :=
  Folder.ofFiles [(Path.ofString "SLUS_214.90", List.replicate 0x18 0 ++ [0x00, 0x10, 0x00, 0x08]),
    (Path.ofString "boot.txt", [0x6E, 0x6F, 0x70, 0x23, 0xC3, 0xA9]),
    (Path.ofString "torn.txt", [0x6E, 0x6F, 0x70, 0xC3])]

/-- a run on a listing, with an executable -/
def gameArguments (listing executable : String) : Arguments :=
  { listing? := some listing, executable? := some executable }

/-- with the whole listing and the executable all is printed. With the torn listing nothing is, and though the
executable fails as well, the error is that of the listing; with the whole one it is that of the executable. -/
theorem execute_all_or_nothing_game :
    ((execute gameFolder.fileSystem (gameArguments "boot.txt" "SLUS_214.90")).exitCode = 0 ∧
      (execute gameFolder.fileSystem (gameArguments "boot.txt" "SLUS_214.90")).stdout =
        "ELF bytes @0x18: 00 10 00 08\nLoad address: 0x00100008\nMapped PCSX2 EE RAM address: 0x20100008\n" ++
          "Search bytes: 08001000\n\nNo dynamic heap setup (syscall 0x3D) found in the listing\n") ∧
    execute gameFolder.fileSystem (gameArguments "torn.txt" "game.elf") =
      .failed ⟨"failed to read listing torn.txt", ["stream did not contain valid UTF-8"]⟩ ∧
    execute gameFolder.fileSystem (gameArguments "boot.txt" "game.elf") =
      .failed ⟨"failed to read ELF header from game.elf",
        ["invalid file name 'game.elf', expected something like SLUS_214.90 or SLES_123.45"]⟩ := by
  have hboot : HoldsText gameFolder.fileSystem "boot.txt" ['n', 'o', 'p', '#', 'é'] := rfl
  have hheader : ReadsHeader gameFolder.fileSystem (some "SLUS_214.90") (some ⟨0x00, 0x10, 0x00, 0x08⟩) := .some rfl
  have hcontent : gameFolder.fileSystem.read (Path.ofString "torn.txt") = .ok [0x6E, 0x6F, 0x70, 0xC3] := rfl
  have htorn : ∀ text, ¬ HoldsText gameFolder.fileSystem "torn.txt" text := by
    intro text htext
    have hnone : readUtf8? [0x6E, 0x6F, 0x70, 0xC3] = none := by decide
    rw [HoldsText, hcontent] at htext
    rw [readUtf8?_eq_some_iff.2 (Except.ok.inj htext)] at hnone
    cases hnone
  have hname : Executable.Header.nameOf (Path.ofString "game.elf") = ['g', 'a', 'm', 'e', '.', 'e', 'l', 'f'] := rfl
  have hmisnamed : Executable.isName (Executable.Header.nameOf (Path.ofString "game.elf")) = false := by decide
  refine ⟨?_, ?_, ?_⟩
  · obtain ⟨hcode, hprinted, -⟩ :=
      execute_all_or_nothing gameFolder.fileSystem (a := gameArguments "boot.txt" "SLUS_214.90") rfl rfl
    refine ⟨hcode.2 ⟨⟨_, hboot⟩, ReadsHeader.exists_iff.1 ⟨_, hheader⟩⟩, ?_⟩
    exact (hprinted _ _ hboot hheader).trans (by decide +kernel)
  · obtain ⟨hcode, -, hfailed⟩ :=
      execute_all_or_nothing gameFolder.fileSystem (a := gameArguments "torn.txt" "game.elf") rfl rfl
    obtain ⟨-, -, hlisting, -⟩ := hfailed fun h => (hcode.1 h).1.elim htorn
    obtain ⟨cause, hcause, hend⟩ := hlisting htorn
    cases hcause with
    | unreadable h hwords => cases hcontent.symm.trans h
    | damaged h hdamaged => exact hend
  · obtain ⟨hcode, -, hfailed⟩ :=
      execute_all_or_nothing gameFolder.fileSystem (a := gameArguments "boot.txt" "game.elf") rfl rfl
    have hproblem : ExecutableProblem gameFolder.fileSystem "game.elf" _ := .misnamed hname (hname ▸ hmisnamed)
    have hne : (execute gameFolder.fileSystem (gameArguments "boot.txt" "game.elf")).exitCode ≠ 0 := by
      intro h
      obtain ⟨header?, hheader⟩ := ReadsHeader.exists_iff.2 (hcode.1 h).2
      exact hproblem.not_readsHeader rfl header? hheader
    obtain ⟨-, -, -, hexecutable⟩ := hfailed hne
    obtain ⟨path, causes, hpath, hcauses, hend⟩ := hexecutable ⟨_, hboot⟩
    obtain rfl := Option.some.inj hpath
    cases hcauses with
    | misnamed hsame h =>
      obtain rfl := hname.symm.trans hsame
      exact hend
    | unreadable hgood h hwords => cases hmisnamed.symm.trans hgood
    | short hgood h hsize => cases hmisnamed.symm.trans hgood

end MemorySetup.CommandLine
