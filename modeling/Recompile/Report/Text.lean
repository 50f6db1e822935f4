import Recompile.Path.Relative
import Recompile.Session.Dirty

/-!
# Reports

What a change makes dirty, and what a file depends on, line by line. Files are shown by their
paths, relative to the root directory where they lie below it.
-/

namespace Recompile

/-- Lines, each ended by a line feed. -/
def unlines (lines : List String) : String := String.join (lines.map (· ++ "\n"))

namespace Session

/-- A file as reports show it. One without a path is shown by its number. -/
def displayPath (s : Session) (root : Path) (id : FileId) : String :=
  match s.interner.path id with
  | some p => ((root.below p).getD p).text
  | none => id.text

/-- The number of a file given relative to the root directory. -/
def lookup (s : Session) (root file : Path) : Except Fault FileId :=
  s.interner.fileId (root.join file)

/-! ### Changed files -/

/-- A changed file and the modules that its change made dirty. -/
structure Change where
  file : FileId
  dirty : List FileId
deriving DecidableEq, Repr

/-- Invalidates one file after another. -/
def changeAll (s : Session) : List FileId → List Change × Session
  | [] => ([], s)
  | file :: rest =>
    let (dirty, s) := s.invalidate file
    let (changes, s) := s.changeAll rest
    (⟨file, dirty⟩ :: changes, s)

/-- Looks up and invalidates one file after another, up to the first that is not known. -/
def changePaths (s : Session) (root : Path) :
    List Path → Session × Except (Path × Fault) (List Change)
  | [] => (s, .ok [])
  | p :: rest =>
    match s.lookup root p with
    | .error cause => (s, .error (p, cause))
    | .ok file =>
      let (dirty, s) := s.invalidate file
      let (s, changes) := s.changePaths root rest
      (s, changes.map (⟨file, dirty⟩ :: ·))

/-- The lines for one change. -/
def changeLines (s : Session) (root : Path) (c : Change) : List String :=
  (s.displayPath root c.file ++ " changed")
    :: c.dirty.map fun id => "  dirty: " ++ s.displayPath root id

/-- The lines for a series of changes, and how many modules are dirty after them. -/
def dirtyLines (s : Session) (root : Path) (changes : List Change) : List String :=
  changes.flatMap (s.changeLines root)
    ++ [toString s.dirtyModules.length ++ " modules need recompiling"]

/-- The report of a series of changes. -/
def dirtyReport (s : Session) (root : Path) (changes : List Change) : String :=
  unlines (s.dirtyLines root changes)

/-! ### Dependencies of a file -/

/-- The lines for a list of files under a heading that counts them. -/
def listLines (s : Session) (root : Path) (heading : String) (ids : List FileId) :
    List String :=
  (heading ++ " (" ++ toString ids.length ++ "):")
    :: ids.map fun id => "  " ++ s.displayPath root id

/-- The lines for what a file depends on and what depends on it, directly or not. This closes
the graph. -/
def depsLines (s : Session) (root : Path) (file : FileId) : List String × Session :=
  let (dependencies, s) := s.dependenciesOf file
  let (dependents, s) := s.dependentsOf file
  (s.displayPath root file :: s.listLines root "depends on" dependencies
    ++ s.listLines root "depended on by" dependents, s)

/-- The report of what a file depends on and what depends on it. -/
def depsReport (s : Session) (root : Path) (file : FileId) : String × Session :=
  let (lines, s) := s.depsLines root file
  (unlines lines, s)

end Session

end Recompile
