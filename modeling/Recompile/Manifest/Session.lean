import Recompile.Manifest.Basic
import Recompile.Session.Basic

/-!
# Sessions from manifests

The modules are numbered and registered first, in the order of their declaration; then their
imports and includes are added, module by module. What a module includes it also depends on.
-/

namespace Recompile

namespace Manifest

/-- Numbers and registers the modules, and returns them. -/
def registerAll (root : Path) (s : Session) :
    List ManifestEntry → Except Fault (List CompiledModule × Session)
  | [] => .ok ([], s)
  | e :: es => do
    let (s, id) := s.intern (root.join e.path)
    let m := CompiledModule.fresh (← id) e.displayName
    let (s, replaced) := s.register m
    let _ ← replaced
    let (ms, s) ← registerAll root s es
    return (m :: ms, s)

/-- Adds the imports of a module. -/
def addImports (root : Path) (m : CompiledModule) (s : Session) :
    List Path → Except Fault Session
  | [] => .ok s
  | p :: ps => do
    let (s, id) := s.intern (root.join p)
    let (s, added) := s.addDep m (← id)
    let _ ← added
    addImports root m s ps

/-- Adds the includes of a module. -/
def addIncludes (root : Path) (m : CompiledModule) (s : Session) :
    List Path → Except Fault Session
  | [] => .ok s
  | p :: ps => do
    let (s, id) := s.intern (root.join p)
    let file ← id
    let (s, added) := (s.addInclude m.id file).addDep m file
    let _ ← added
    addIncludes root m s ps

/-- Adds the imports and includes of all modules. -/
def connectAll (root : Path) (s : Session) :
    List (ManifestEntry × CompiledModule) → Except Fault Session
  | [] => .ok s
  | (e, m) :: rest => do
    let s ← addImports root m s e.imports
    let s ← addIncludes root m s e.includes
    connectAll root s rest

/-- The session of a manifest whose paths are read from the directory `root`. -/
def buildSession (man : Manifest) (root : Path) : Except Fault Session := do
  let (ms, s) ← registerAll root (Session.new man.config) man.modules
  connectAll root s (man.modules.zip ms)

end Manifest

end Recompile
