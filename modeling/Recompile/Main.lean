import Recompile.CommandLine.Run
import Recompile.Watch.Service

/-!
# The command line

Reports go to standard output; failures, and the changes that are watched, go to standard error.
-/

namespace Recompile

namespace CommandLine

/-! ### The disk -/

/-- Why the system does not read a file. The number of a reason may come with its sign
changed. -/
def readErrorOf (e : IO.Error) : ReadError :=
  match e with
  | .noFileOrDirectory .. => .notFound
  | .inappropriateType _ code _ =>
    if code = 20 || code = -20 then .notDirectory
    else if code = 21 || code = -21 then .isDirectory
    else .other (toString e)
  | .invalidArgument _ code _ =>
    if code = 36 || code = -36 then .nameTooLong else .other (toString e)
  | e => .other (toString e)

/-- The path of an existing file from the root, without detours. -/
def canonicalPath (p : Path) : IO (Option Path) := do
  try return some ⟨(← IO.FS.realPath p.text).toString⟩
  catch _ => return none

/-- The text of a file. -/
def readText (p : Path) : IO (Except ReadError String) := do
  try return textOf? (← IO.FS.readBinFile p.text)
  catch e => return .error (readErrorOf e)

/-- The time of the last change of a file, if there is one. -/
def lastChange (p : Path) : IO (Option IO.FS.SystemTime) := do
  try
    let file ← IO.FS.realPath p.text
    return some (← file.metadata).modified
  catch _ => return none

/-- Answers a command line from what the disk holds. -/
def answer (i : Invocation) : IO (Except CommandError Output) := do
  let root ← canonicalPath i.root
  let document ← readText ((root.getD i.root).join i.manifest)
  return i.run { canonicalize := fun _ => root, read := fun _ => document }

/-! ### Watching -/

/-- How a file changed between two looks at it. -/
def changeKind? (before after : Option IO.FS.SystemTime) : Option ChangeKind :=
  match before, after with
  | none, some _ => some .created
  | some _, none => some .removed
  | some t, some u => if t == u then none else some .modified
  | none, none => none

/-- Looks at the tracked files twice a second, applies the events of those that changed, and
tells what became dirty. -/
partial def watch (svc : Service) (times : List (Path × Option IO.FS.SystemTime)) :
    IO Unit := do
  IO.sleep 500
  let mut svc := svc
  let mut seen := []
  for (p, before) in times do
    let after ← lastChange p
    if let some kind := changeKind? before after then
      let canonical ← canonicalPath p
      for e in Notice.events ⟨some kind, [p]⟩ do
        let (report, next) := svc.handle (fun _ => canonical) e
        svc := next
        if let some r := report then
          let n := r.dirty.length
          IO.eprintln s!"{p} changed: {n} modules dirty"
    seen := (p, after) :: seen
  watch svc seen.reverse

/-- Watches the files a session tracks. -/
def watchSession (root : Path) (s : Session) : IO Unit := do
  IO.eprintln s!"watching {root}"
  let times ← s.interner.toList.mapM fun (_, p) => do return (p, ← lastChange p)
  watch (Service.new root s) times

end CommandLine

end Recompile

open Recompile in
/-- Answers the command line. The exit code is 0, or 1 for a failure, or 2 for a command line
that is not understood. -/
def main (arguments : List String) : IO UInt32 := do
  match Invocation.parse arguments with
  | .error .help =>
    IO.println UsageError.help.message
    return UsageError.help.exitCode.toUInt32
  | .error e =>
    IO.eprintln ("error: " ++ e.message)
    return e.exitCode.toUInt32
  | .ok i =>
    match ← CommandLine.answer i with
    | .error e =>
      IO.eprintln ("Error: " ++ e.text)
      return 1
    | .ok (.text t) => IO.print t
    | .ok (.drawing d) => IO.print d.text
    | .ok (.watching s) => CommandLine.watchSession i.root s
    return 0
