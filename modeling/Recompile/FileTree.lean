import Recompile.Path.Relative

/-!
# File trees

Directories and files by their places. A path is followed step by step from the root, or from
the working directory; every step must start in a directory.
-/

namespace Recompile

/-- The names of the directories from the root to a file, and its own. -/
abbrev Place := List String

/-- What there is at a place. -/
inductive FileNode where
  | directory
  | file (bytes : ByteArray)

/-- Whether there is a directory. -/
def FileNode.isDirectory : FileNode → Bool
  | directory => true
  | file _ => false

/-- Why a file cannot be read. -/
inductive ReadError where
  | notFound
  | notDirectory
  | isDirectory
  | nameTooLong
  /-- No path has a null character. -/
  | nullCharacter
  | notText
  /-- Any other reason of the system, in its own words. -/
  | other (reason : String)
deriving DecidableEq, Repr

namespace ReadError

/-- The wording of a reason. -/
def message : ReadError → String
  | notFound => "No such file or directory (os error 2)"
  | notDirectory => "Not a directory (os error 20)"
  | isDirectory => "Is a directory (os error 21)"
  | nameTooLong => "File name too long (os error 36)"
  | nullCharacter => "file name contained an unexpected NUL byte"
  | notText => "stream did not contain valid UTF-8"
  | other reason => reason

end ReadError

/-- What a program sees of the disk. -/
structure Disk where
  /-- The path of an existing file from the root, without detours. -/
  canonicalize : Path → Option Path
  /-- The text of a file. -/
  read : Path → Except ReadError String

/-- The text that bytes spell. -/
def textOf? (bytes : ByteArray) : Except ReadError String :=
  match String.fromUTF8? bytes with
  | some t => .ok t
  | none => .error .notText

/-- Directories and files by their places. The root is always there. -/
structure FileTree where
  entries : List (Place × FileNode) := []

namespace FileTree

/-- What there is at a place. -/
def find (t : FileTree) (place : Place) : Option FileNode :=
  if place = [] then some .directory else t.entries.lookup place

/-- Puts something at a place. -/
def put (t : FileTree) (place : Place) (node : FileNode) : FileTree :=
  ⟨t.entries.filter (fun e => e.1 ≠ place) ++ [(place, node)]⟩

/-- Makes a directory and those it lies in, where they do not exist. -/
def makeDirectories (t : FileTree) (place : Place) : FileTree :=
  ((List.range place.length).map fun n => place.take (n + 1)).foldl
    (fun t place => if (t.find place).isSome then t else t.put place .directory) t

/-- Makes a file and the directories it lies in. -/
def makeFile (t : FileTree) (place : Place) (bytes : ByteArray) : FileTree :=
  (t.makeDirectories place.dropLast).put place (.file bytes)

/-- Removes what there is at a place and below it. -/
def remove (t : FileTree) (place : Place) : FileTree :=
  ⟨t.entries.filter fun e => !place.isPrefixOf e.1⟩

/-- Moves what there is at a place, with all below it, to another place. -/
def move (t : FileTree) (source target : Place) : FileTree :=
  let moved := t.entries.filter fun e => source.isPrefixOf e.1
  ⟨((t.remove source).remove target).entries
    ++ moved.map fun (place, node) => (target ++ place.drop source.length, node)⟩

/-- The directories below a place. -/
def directoriesBelow (t : FileTree) (place : Place) : List Place :=
  t.entries.filterMap fun (p, node) =>
    if node.isDirectory && place.isPrefixOf p && p ≠ place then some p else none

/-! ### Paths -/

/-- The most bytes a name has. -/
def nameLimit : Nat := 255

/-- A path that the system takes has fewer bytes. -/
def pathLimit : Nat := 4096

/-- Follows the pieces of a path from a place. Even a piece that stands for no step needs a
directory to be in. -/
def follow (t : FileTree) : List (List Char) → Place → Except ReadError Place
  | [], place => .ok place
  | s :: ss, place =>
    match t.find place with
    | none => .error .notFound
    | some (.file _) => .error .notDirectory
    | some .directory =>
      match Path.step? s with
      | none => t.follow ss place
      | some .up => t.follow ss place.dropLast
      | some _ =>
        let name := String.ofList s
        if nameLimit < name.utf8ByteSize then .error .nameTooLong
        else if (t.find (place ++ [name])).isSome then t.follow ss (place ++ [name])
        else .error .notFound

/-- The place a path leads to from the working directory, step by step. -/
def walk (t : FileTree) (workingDirectory : Place) (p : Path) : Except ReadError Place :=
  if p.text = "" then .error .notFound
  else t.follow p.segments (if p.isAbsolute then [] else workingDirectory)

/-- The place a path leads to from the working directory, if the system takes the path. -/
def resolve (t : FileTree) (workingDirectory : Place) (p : Path) : Except ReadError Place :=
  if p.text.toList.contains '\x00' then .error .nullCharacter
  else if pathLimit ≤ p.text.utf8ByteSize then .error .nameTooLong
  else t.walk workingDirectory p

/-- The path of a place from the root. -/
def pathOf (place : Place) : Path := ⟨"/" ++ "/".intercalate place⟩

/-- Reads the file a path leads to. -/
def read (t : FileTree) (workingDirectory : Place) (p : Path) : Except ReadError String := do
  match t.find (← t.resolve workingDirectory p) with
  | none => .error .notFound
  | some .directory => .error .isDirectory
  | some (.file bytes) => textOf? bytes

/-- The tree as a program sees it from a working directory. To find a canonical path takes one
step at a time, so the path may be long. -/
def disk (t : FileTree) (workingDirectory : Place) : Disk where
  canonicalize p := ((t.walk workingDirectory p).toOption).map pathOf
  read := t.read workingDirectory

/-- The place a path leads to, whether or not there is something, if the directory it lies in
exists. -/
def placeOf (t : FileTree) (p : Path) : Option Place :=
  match p.fileName with
  | some name =>
    match p.segments.reverse.dropWhile (fun s => (Path.step? s).isNone) with
    | _ :: parent => ((t.follow parent.reverse []).toOption).map (· ++ [name])
    | [] => none
  | none => (t.resolve [] p).toOption

end FileTree

end Recompile
