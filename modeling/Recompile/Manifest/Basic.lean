import Recompile.Path.Relative
import Recompile.Toml.Record

/-!
# Manifests

A manifest lists the modules of a project with what they import and include, and the settings of
the session to keep them in.
-/

namespace Recompile

/-- A module as a manifest lists it. -/
structure ManifestEntry where
  path : Path
  name : Option String := none
  imports : List Path := []
  includes : List Path := []
deriving DecidableEq, Repr

/-- The modules of a project, in the order of their declaration. -/
structure Manifest where
  config : Config := .suggest
  modules : List ManifestEntry := []
deriving DecidableEq, Repr

/-- The name a manifest has unless another is asked for. -/
def Manifest.defaultPath : Path := ⟨"modgraph.toml"⟩

namespace ManifestEntry

/-- The name of a module: the one given, else the stem of its path. -/
def displayName (e : ManifestEntry) : String :=
  e.name.getD (e.path.stem.getD e.path.text)

/-- Reads a list of paths. One that is left out is empty. -/
def paths? : Option Toml.Value → Option (List Path)
  | none => some []
  | some v => do
    let items ← v.items?
    items.mapM fun i => i.text?.map Path.mk

/-- Reads a module. Its path is required; in an array its name is, too. -/
def ofToml? (v : Toml.Value) : Option ManifestEntry := do
  let [path, name, imports, includes] ← v.record? ["path", "name", "imports", "includes"] | none
  if v.items?.isSome && name.isNone then none
  return {
    path := ⟨← (← path).text?⟩
    name := ← name.elim (some none) fun n => n.text?.map some
    imports := ← paths? imports
    includes := ← paths? includes }

end ManifestEntry

namespace Manifest

/-- Reads a manifest. Without settings its session is in suggest mode. -/
def ofToml? (v : Toml.Value) : Option Manifest := do
  let [session, modules] ← v.record? ["session", "module"] | none
  return {
    config := ← session.elim (some .suggest) Config.ofToml?
    modules := ← modules.elim (some []) fun ms => do (← ms.items?).mapM ManifestEntry.ofToml? }

/-- The manifest a document holds. -/
def parse (document : String) : Option Manifest := do ofToml? (← Toml.parse document)

end Manifest

end Recompile
