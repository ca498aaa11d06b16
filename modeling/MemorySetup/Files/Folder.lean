/-
A folder of files held in memory.

The folder is the place where relative paths start. It is given by its files alone: a folder inside it exists as long
as a file stands below. A walk takes the components of a path one by one and fails at the first that leads nowhere.
Paths that leave the folder arrive among folders of which nothing else is known, so no file is found there.
-/
import MemorySetup.Files.FileSystem

namespace MemorySetup

/-- a folder, by the files in it; of two files with one path the later counts -/
structure Folder where
  files : List (List Bytes × Bytes)

namespace Folder

/-- where a walk has arrived -/
inductive Place where
  | folder (trail : List Bytes)
  | file (content : Bytes)
  | outside
  deriving DecidableEq, Repr

/-- the longest name of a file, in bytes -/
def maxName : Nat := 255

/-- the longest path, in bytes -/
def maxPath : Nat := 4095

def ofFiles (files : List (Path × Bytes)) : Folder :=
  ⟨files.map fun (path, content) => ((Path.components path).filter (· ≠ Path.here), content)⟩

def file? (folder : Folder) (trail : List Bytes) : Option Bytes :=
  (folder.files.reverse.find? fun f => f.1 == trail).map (·.2)

/-- some file stands below a place -/
def isFolder (folder : Folder) (trail : List Bytes) : Bool :=
  folder.files.any fun f => trail.isPrefixOf f.1 && trail != f.1

/-- go from a folder to one of its entries -/
def entry (folder : Folder) (trail : List Bytes) (name : Bytes) : Except ReadError Place :=
  if maxName < name.length then .error .nameTooLong
  else
    match folder.file? (trail ++ [name]) with
    | some content => .ok (.file content)
    | none => if folder.isFolder (trail ++ [name]) then .ok (.folder (trail ++ [name])) else .error .notFound

def enter (folder : Folder) : Place → Bytes → Except ReadError Place
  | .file _, _ => .error .notADirectory
  | .outside, name =>
    if name = Path.here ∨ name = Path.above then .ok .outside
    else if maxName < name.length then .error .nameTooLong
    else .error .notFound
  | .folder trail, name =>
    if name = Path.here then .ok (.folder trail)
    else if name = Path.above then .ok (if trail.isEmpty then .outside else .folder trail.dropLast)
    else folder.entry trail name

def walk (folder : Folder) (path : Path) : Except ReadError Place :=
  let start := if Path.isAbsolute path then Place.outside else .folder []
  let last := if Path.endsInSlash path then [Path.here] else []
  (Path.components path ++ last).foldlM folder.enter start

def read (folder : Folder) (path : Path) : Except ReadError Bytes :=
  if path.contains 0 then .error .zeroByteInPath
  else if path.isEmpty then .error .notFound
  else if maxPath < path.length then .error .nameTooLong
  else
    match folder.walk path with
    | .ok (.file content) => .ok content
    | .ok _ => .error .isADirectory
    | .error cause => .error cause

def fileSystem (folder : Folder) : FileSystem :=
  ⟨folder.read⟩

end Folder

end MemorySetup
