import Recompile.Session.Dirty

/-!
# Histories of sessions

Everything that can be asked of a session, and what it answers. A refused step keeps what was
done before the refusal, and the history goes on.
-/

namespace Recompile

namespace Session

/-- What can be asked of a session. -/
inductive Step where
  | intern (path : Path)
  | fileId (path : Path)
  | register (module : CompiledModule)
  | get (id : FileId)
  | marker (id : FileId)
  | parent (id : FileId)
  | addDep (module : CompiledModule) (dependency : FileId)
  | addInclude (module file : FileId)
  | isClosed
  | close
  | hasEdge (dependent dependency : FileId)
  | edges
  | edgeCount
  | relation
  | dependentsOf (id : FileId)
  | dependenciesOf (id : FileId)
  | markDirty (id : FileId)
  | markClients (id : FileId)
  | isDirty (id : FileId)
  | clearDirty (id : FileId)
  | dirtyModules
  | invalidate (id : FileId)
  | pushImport (id : FileId)
  | popImport
  | clearImports
  | importing (id : FileId)
  | pushOwner (id : FileId)
  | popOwner
  | currentOwner
  | loadModule (importer file : FileId)
  | loadInclude (includer file : FileId)
  | registerLoaded (importer file : FileId)
  | statement (module : FileId) (text : String)
  | shouldStop
  | reset
  | cache (step : Cache.Step Json)
  | symbols (step : Symbols.Step)

/-- What a session answers. -/
inductive Answer where
  | done
  | fault (cause : Fault)
  | file (id : Option FileId)
  | files (ids : List FileId)
  | flag (b : Bool)
  | marker (m : Option Bool)
  | count (n : Nat)
  | module (m : Option CompiledModule)
  /-- A loader had nothing to register. -/
  | nothingLoaded
  | includeText (t : Option IncludeText)
  | edges (pairs : List (FileId × FileId))
  | relation (r : Relation)
  | cache (answer : Cache.Answer Json)
  | symbols (answer : Symbols.Answer)

/-- One step of a session. -/
def step (s : Session) : Step → Session × Answer
  | .intern p =>
    match s.intern p with
    | (s', .ok id) => (s', .file (some id))
    | (s', .error cause) => (s', .fault cause)
  | .fileId p =>
    match s.interner.fileId p with
    | .ok id => (s, .file (some id))
    | .error cause => (s, .fault cause)
  | .register m =>
    match s.register m with
    | (s', .ok old) => (s', .module old)
    | (s', .error cause) => (s', .fault cause)
  | .get id => (s, .module (s.registry.get id))
  | .marker id => (s, .marker ((s.registry.get id).map (·.dirty)))
  | .parent id => (s, .file (some (s.parent id)))
  | .addDep m dependency =>
    match s.addDep m dependency with
    | (s', .ok ()) => (s', .done)
    | (s', .error cause) => (s', .fault cause)
  | .addInclude module file => (s.addInclude module file, .done)
  | .isClosed => (s, .flag s.graph.isClosed)
  | .close => (s.close, .flag s.graph.isOpen)
  | .hasEdge a b => (s, .flag (s.graph.contains a b))
  | .edges => (s, .edges s.graph.edges)
  | .edgeCount => (s, .count s.graph.size)
  | .relation => (s, .relation s.graph.relation)
  | .dependentsOf id => let (ids, s') := s.dependentsOf id; (s', .files ids)
  | .dependenciesOf id => let (ids, s') := s.dependenciesOf id; (s', .files ids)
  | .markDirty id => (s.markDirty id, .done)
  | .markClients id => let (ids, s') := s.markClients id; (s', .files ids)
  | .isDirty id => (s, .flag (s.isDirty id))
  | .clearDirty id => (s.clearDirty id, .done)
  | .dirtyModules => (s, .files s.dirtyModules)
  | .invalidate id => let (ids, s') := s.invalidate id; (s', .files ids)
  | .pushImport id => ({ s with imports := s.imports.push id }, .done)
  | .popImport => ({ s with imports := s.imports.pop.2 }, .file s.imports.pop.1)
  | .clearImports => ({ s with imports := .empty }, .done)
  | .importing id => (s, .flag (s.imports.contains id))
  | .pushOwner id => ({ s with owners := s.owners.push id }, .done)
  | .popOwner => ({ s with owners := s.owners.pop.2 }, .file s.owners.pop.1)
  | .currentOwner => (s, .file s.owners.top)
  | .loadModule importer file =>
    match s.hooks.loadModule importer file with
    | .ok m => (s, .module m)
    | .error cause => (s, .fault cause)
  | .loadInclude includer file =>
    match s.hooks.loadInclude includer file with
    | .ok t => (s, .includeText t)
    | .error cause => (s, .fault cause)
  | .registerLoaded importer file =>
    match s.registerLoaded importer file with
    | (s', .ok (some old)) => (s', .module old)
    | (s', .ok none) => (s', .nothingLoaded)
    | (s', .error cause) => (s', .fault cause)
  | .statement module text => (s.recordStatement module text, .done)
  | .shouldStop => (s, .flag s.hooks.shouldStop)
  | .reset => (s.reset, .done)
  | .cache c => let (cache, a) := s.cache.step c; ({ s with cache }, .cache a)
  | .symbols c => let (symbols, a) := s.symbols.step c; ({ s with symbols }, .symbols a)

/-- The steps of a history. -/
def run (s : Session) (steps : List Step) : Session × List Answer := runSteps step s steps

end Session

end Recompile
