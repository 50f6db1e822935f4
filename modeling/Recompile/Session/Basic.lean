import Recompile.Config
import Recompile.Hooks
import Recompile.Interner
import Recompile.Registry
import Recompile.Ownership
import Recompile.Dependency.Graph
import Recompile.Dependency.Log
import Recompile.FileStack
import Recompile.Symbols
import Recompile.Cache
import Recompile.Json.Basic

/-!
# Sessions

A session owns every table of one compiling process. Dependencies are always reported to the
store; the dependency graph is kept in suggest mode only. A refused operation leaves what was
done before the refusal.
-/

namespace Recompile

/-- The state of one compiling process. -/
structure Session where
  config : Config := {}
  interner : Interner := .empty
  registry : Registry := .empty
  ownership : Ownership := .empty
  graph : DependencyGraph := .empty
  imports : FileStack := .empty
  owners : FileStack := .empty
  symbols : Symbols := .empty
  cache : Cache Json := .empty
  store : Store := .discarding
  hooks : Hooks := .none

namespace Session

/-- A new session, without store and hooks. -/
def new (config : Config) : Session := { config }

/-- Whether graph and markers are live. -/
def suggests (s : Session) : Bool := s.config.mode = .suggest

/-! ### Files and modules -/

/-- The number of a path; a new path gets the next free one. -/
def intern (s : Session) (p : Path) : Session × Except Fault FileId :=
  match s.interner.intern p with
  | .ok (id, interner) => ({ s with interner }, .ok id)
  | .error cause => (s, .error cause)

/-- Puts a finished module into its slot and returns the one that was there. -/
def register (s : Session) (m : CompiledModule) :
    Session × Except Fault (Option CompiledModule) :=
  match s.registry.register m with
  | .ok (old, registry) => ({ s with registry }, .ok old)
  | .error cause => (s, .error cause)

/-- The module a file belongs to: the file itself if it is a loaded module, else its owner. -/
def parent (s : Session) (id : FileId) : FileId :=
  if s.registry.contains id then id else (s.ownership.owner id).getD .unknown

/-! ### Dependencies -/

/-- Notes that `module` includes `file`. The first includer comes to own the file. -/
def addInclude (s : Session) (module file : FileId) : Session :=
  { s with
    store := s.store.record ⟨module, file, .inclusion⟩
    ownership := (s.ownership.record file module).2 }

/-- Notes that a module depends on a file. A module of another file's slot and an unknown
dependency are refused before anything is reported; a module without a number is refused by
the graph, when there is one. -/
def addDep (s : Session) (m : CompiledModule) (dependency : FileId) :
    Session × Except Fault Unit :=
  if m.id ≠ m.origin then (s, .error (.wrongOrigin m.name m.id m.origin))
  else if !dependency.isKnown then (s, .error (.unknownDependency m.name))
  else
    let s := { s with store := s.store.record ⟨m.id, dependency, .direct⟩ }
    if s.suggests then
      match s.graph.insert m.id dependency with
      | .ok (_, graph) => ({ s with graph }, .ok ())
      | .error cause => (s, .error cause)
    else (s, .ok ())

/-- Notes one dependency after another, up to the first that is refused. -/
def addDeps (s : Session) : List (CompiledModule × FileId) → Session × Except Fault Unit
  | [] => (s, .ok ())
  | (m, dependency) :: rest =>
    match s.addDep m dependency with
    | (s, .ok ()) => s.addDeps rest
    | (s, .error cause) => (s, .error cause)

/-- The session with its graph closed. -/
def close (s : Session) : Session := { s with graph := s.graph.closed }

/-- Every file that depends on `id`. This closes the graph. -/
def dependentsOf (s : Session) (id : FileId) : List FileId × Session :=
  let (ids, graph) := s.graph.dependentsOf id
  (ids, { s with graph })

/-- Every file `id` depends on. This closes the graph. -/
def dependenciesOf (s : Session) (id : FileId) : List FileId × Session :=
  let (ids, graph) := s.graph.dependenciesOf id
  (ids, { s with graph })

/-! ### Hooks -/

/-- Loads a module and registers it, if there is one. -/
def registerLoaded (s : Session) (importer file : FileId) :
    Session × Except Fault (Option (Option CompiledModule)) :=
  match s.hooks.loadModule importer file with
  | .error cause => (s, .error cause)
  | .ok none => (s, .ok none)
  | .ok (some m) =>
    let (s, old) := s.register m
    (s, old.map some)

/-- Hands a compiled statement to the listener, when statements are traced. -/
def recordStatement (s : Session) (module : FileId) (statement : String) : Session :=
  if s.config.traceStatements then { s with hooks := s.hooks.hear module statement } else s

/-! ### Starting over -/

/-- Forgets the current program. Numbers of files, settings, store and hooks stay. -/
def reset (s : Session) : Session :=
  { config := s.config, interner := s.interner, store := s.store, hooks := s.hooks }

/-- The sizes of the main tables, for diagnostics. -/
def debugText (s : Session) : String :=
  "GraphSession \x7b mode: " ++ s.config.mode.debugText
    ++ ", files: " ++ toString s.interner.size
    ++ ", modules: " ++ toString s.registry.modules.length
    ++ ", edges: " ++ toString s.graph.size ++ " \x7d"

end Session

end Recompile
