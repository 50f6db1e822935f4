import Recompile.CommandLine.Arguments
import Recompile.FileTree
import Recompile.Manifest.Session
import Recompile.Report.Drawing

/-!
# Running a command

A command reads the manifest below the root directory, builds its session and reports on it.
-/

namespace Recompile

/-- Why a command fails. -/
inductive CommandError where
  | unreadable (manifest : Path) (cause : ReadError)
  | invalidManifest
  | refused (cause : Fault)
  /-- A file that neither is a module nor is imported or included by one. -/
  | unlisted (file : Path) (cause : Fault)
deriving DecidableEq, Repr

namespace CommandError

/-- The wording of a failure. -/
def message : CommandError → String
  | unreadable manifest _ => s!"failed to read manifest {manifest}"
  | invalidManifest => "invalid manifest"
  | refused cause => cause.message
  | unlisted file _ => s!"{file} is not listed in the manifest"

/-- The wording of what a failure was caused by. -/
def cause? : CommandError → Option String
  | unreadable _ cause => some cause.message
  | invalidManifest => none
  | refused _ => none
  | unlisted _ cause => some cause.message

/-- A failure and its cause, the lines of which are indented. -/
def text (e : CommandError) : String :=
  match e.cause? with
  | none => e.message
  | some cause => e.message ++ "\n\nCaused by:\n    " ++ cause.replace "\n" "\n    "

end CommandError

/-- What a command puts out. -/
inductive Output where
  | text (t : String)
  | drawing (d : Drawing)
  /-- Changes are to be watched for the session. -/
  | watching (s : Session)

namespace Invocation

/-- The name and version of the program. -/
def versionText : String := "Modgraph v0.1.0\n"

/-- The session of a manifest that was read below the root directory. -/
def sessionOf (root manifest : Path) (document : Except ReadError String) :
    Except CommandError Session :=
  match document with
  | .error cause => .error (.unreadable manifest cause)
  | .ok document =>
    match Manifest.parse document with
    | none => .error .invalidManifest
    | some m => (m.buildSession root).mapError .refused

/-- What a command puts out for a session. -/
def report (root : Path) (s : Session) : Command → Except CommandError Output
  | .dirty files =>
    match s.changePaths root files with
    | (s, .ok changes) => .ok (.text (s.dirtyReport root changes))
    | (_, .error (file, cause)) => .error (.unlisted file cause)
  | .deps file =>
    match s.lookup root file with
    | .ok id => .ok (.text (s.depsReport root id).1)
    | .error cause => .error (.unlisted file cause)
  | .dot => .ok (.drawing (s.draw root).1)
  | .watch => .ok (.watching s)
  | .version => .ok (.text versionText)

/-- The root directory: the canonical path, or the path as given if there is none. -/
def rootOn (disk : Disk) (i : Invocation) : Path := (disk.canonicalize i.root).getD i.root

/-- Answers a command line. -/
def run (disk : Disk) (i : Invocation) : Except CommandError Output :=
  match i.command with
  | .version => .ok (.text versionText)
  | command => do
    let root := i.rootOn disk
    let manifest := root.join i.manifest
    report root (← sessionOf root manifest (disk.read manifest)) command

end Invocation

end Recompile
