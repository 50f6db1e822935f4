import Mathlib.Data.List.Find
import Recompile.Proofs.Manifest.Building

/-!
# The tables of a session that was built

A freshly built session mirrors its manifest, table by table: files are numbered as they come
first, modules before what they import and include; a slot holds the last module declared for it,
a file belongs to the first module that includes it, and the edges are the declared dependencies.
-/

namespace Recompile

open Recompile.Path (Fit)
open Interner (number)

/-- The tables of a session are those that a manifest declares. -/
structure Session.Mirrors (s : Session) (man : Manifest) (root : Path) : Prop where
  config : s.config = man.config
  /-- The files are listed in the order in which they come first. -/
  files : s.interner.paths.toList = Path.firsts (man.files root)
  /-- The modules have the first numbers, one for each place. -/
  loaded : ∀ id, s.registry.contains id
    ↔ ∃ i < (Path.firsts (man.modules.map fun e => root.join e.path)).length, id = .ofIndex i
  /-- A module is clean and has the name that its last entry gives it. -/
  modules : ∀ id, s.registry.get id
    = (man.modules.reverse.find? fun e => s.interner.lookup (root.join e.path) = some id).map
      fun e => .fresh id e.displayName
  /-- An included file belongs to the module of the first entry that includes it. -/
  owners : ∀ file, s.ownership.owner file
    = (man.modules.find? fun e =>
        ∃ d ∈ e.includes, s.interner.lookup (root.join d) = some file).bind
      fun e => s.interner.lookup (root.join e.path)
  /-- In suggest mode a module has an edge to each of its imports and includes. -/
  edges : ∀ a b, (a, b) ∈ s.graph.edges
    ↔ man.config.mode = .suggest ∧ ∃ e ∈ man.modules, ∃ d ∈ e.dependencies,
      s.interner.lookup (root.join e.path) = some a ∧ s.interner.lookup (root.join d) = some b
  isOpen : s.graph.isOpen ↔ s.graph.edges ≠ []

/-- The loaded modules are those of the entries. -/
theorem Session.Mirrors.contains_iff {s : Session} {man : Manifest} {root : Path} {id : FileId}
    (h : s.Mirrors man root) :
  s.registry.contains id ↔ ∃ e ∈ man.modules, s.interner.lookup (root.join e.path) = some id
  := by
  rw [Registry.contains, h.modules]
  simp

namespace Manifest

variable {man : Manifest} {root : Path} {e : ManifestEntry} {d p : Path} {id file : FileId}

/-! ### Numbers of declared paths -/

/-- The table of files that a manifest declares. -/
def table (man : Manifest) (root : Path) : Interner := .listing (man.files root)

/-- Each declared path is found under its number. -/
theorem lookup_table (hp : p ∈ man.files root) :
  (man.table root).lookup p = some (number (man.files root) p)
  := Interner.lookup_listing hp

theorem lookup_table_iff (hp : p ∈ man.files root) :
  (man.table root).lookup p = some id ↔ number (man.files root) p = id
  := by
  rw [lookup_table hp, Option.some.injEq]

/-- The modules have the numbers that they have among themselves. -/
theorem lookup_module (he : e ∈ man.modules) :
  (man.table root).lookup (root.join e.path)
    = (Interner.listing (man.modules.map fun e => root.join e.path)).lookup (root.join e.path)
  := by
  apply (Interner.lists_listing _).lookup_eq_of_extends (Interner.extends_listing _ _)
  apply List.mem_map_of_mem he

/-! ### The registry -/

theorem isKnown_number (hfit : Fit (man.files root)) (hp : p ∈ man.files root) :
  (number (man.files root) p).isKnown
  := Interner.isKnown_number hfit List.prefix_rfl hp

theorem isKnown_modules (hfit : Fit (man.files root)) :
  ∀ m ∈ (man.contents root).modules, m.id.isKnown
  := by
  intro m hm
  rw [contents_eq] at hm
  obtain ⟨e, he, rfl⟩ := List.mem_map.mp hm
  apply isKnown_number hfit (mem_files_of_mem_modules he)

/-- Each module is in the slot of its own number. -/
theorem placed_built (hfit : Fit (man.files root)) :
  (man.built root).registry.Placed
  := Registry.placed_foldl_withModule _ (isKnown_modules hfit)

/-- A slot holds the module of the last entry for its file. -/
theorem get_built (hfit : Fit (man.files root)) :
  (man.built root).registry.get id
    = (man.modules.reverse.find? fun e => (man.table root).lookup (root.join e.path) = some id).map
      fun e => .fresh id e.displayName
  := by
  have hfind : man.modules.reverse.find? (fun e => (e.module (man.files root) root).id = id)
      = man.modules.reverse.find?
        fun e => (man.table root).lookup (root.join e.path) = some id := by
    apply List.find?_congr
    intro e he
    have hp : root.join e.path ∈ man.files root :=
      mem_files_of_mem_modules (List.mem_reverse.mp he)
    simp only [lookup_table_iff hp]
    rfl
  rw [built, Contents.session, Registry.get_foldl_withModule _ (isKnown_modules hfit), contents_eq,
    ← List.map_reverse, List.find?_map, ← hfind]
  apply Option.map_congr
  intro e he
  have hid : (e.module (man.files root) root).id = id := by simpa using List.find?_some he
  rw [← hid]
  rfl

/-- The modules have the first numbers. -/
theorem loaded_iff :
  (∃ e ∈ man.modules, (man.table root).lookup (root.join e.path) = some id)
    ↔ ∃ i < (Path.firsts (man.modules.map fun e => root.join e.path)).length, id = .ofIndex i
  := by
  constructor
  · rintro ⟨e, he, hid⟩
    rw [lookup_module he] at hid
    obtain ⟨i, hi, -, rfl⟩ := Interner.place_of_lookup hid
    use i, hi
  · rintro ⟨i, hi, rfl⟩
    have hp := List.getElem_mem hi
    obtain ⟨q, hq, hqp⟩ := Path.exists_same_firsts.mp ⟨_, hp, Path.Same.refl _⟩
    obtain ⟨e, he, rfl⟩ := List.mem_map.mp hq
    use e, he
    rw [lookup_module he, Interner.lookup_congr hqp]
    apply Interner.lookup_of_firsts (List.getElem?_eq_getElem hi)

/-! ### The owners -/

/-- The first of the pairs of a list with a given second part comes from the first entry that has
such a pair. -/
theorem find?_pairs {α β γ : Type} [DecidableEq γ] (key : α → γ) (items : α → List β)
    (val : β → γ) (x : γ) (es : List α) :
  ((es.flatMap fun e => (items e).map fun d => (key e, val d)).find? fun l => l.2 = x).map Prod.fst
    = (es.find? fun e => ∃ d ∈ items e, val d = x).map key
  := by
  induction es with
  | nil => rfl
  | cons e es ih =>
      rw [List.flatMap_cons, List.find?_append, Option.map_or, ih, List.find?_map, List.find?_cons]
      cases h : (items e).find? fun d => val d = x with
      | none =>
          have hnone : ¬ ∃ d ∈ items e, val d = x := by simpa using h
          simp [h, hnone]
      | some d =>
          have hsome : ∃ d ∈ items e, val d = x := by
            use d, List.mem_of_find?_eq_some h
            simpa using List.find?_some h
          simp [h, hsome]

/-- A file belongs to the module of the first entry that includes it. -/
theorem owner_built :
  (man.built root).ownership.owner file
    = (man.modules.find? fun e =>
        ∃ d ∈ e.includes, (man.table root).lookup (root.join d) = some file).bind
      fun e => (man.table root).lookup (root.join e.path)
  := by
  have hfind : man.modules.find? (fun e =>
        ∃ d ∈ e.includes, number (man.files root) (root.join d) = file)
      = man.modules.find? fun e =>
        ∃ d ∈ e.includes, (man.table root).lookup (root.join d) = some file := by
    apply List.find?_congr
    intro e he
    apply decide_eq_decide.mpr
    apply exists_congr
    intro d
    apply and_congr_right
    intro hd
    rw [lookup_table_iff (mem_files_of_mem_dependencies he (List.mem_append_right _ hd))]
  have howner := find?_pairs (fun e => number (man.files root) (root.join e.path))
    ManifestEntry.includes (fun d => number (man.files root) (root.join d)) file man.modules
  rw [built, Contents.session, Ownership.owner_foldl_own, contents_eq, howner, hfind,
    Option.map_eq_bind]
  apply Option.bind_congr
  intro e he
  rw [lookup_table (mem_files_of_mem_modules (List.mem_of_find?_eq_some he))]
  rfl

/-! ### The edges -/

/-- The session is told of a dependency exactly if it is declared. -/
theorem mem_dependencies_contents {a b : FileId} :
  (a, b) ∈ (man.contents root).dependencies
    ↔ ∃ e ∈ man.modules, ∃ d ∈ e.dependencies,
      (man.table root).lookup (root.join e.path) = some a
        ∧ (man.table root).lookup (root.join d) = some b
  := by
  rw [contents_eq, List.mem_map]
  constructor
  · rintro ⟨⟨p, q⟩, hl, hab⟩
    obtain ⟨e, he, rfl, d, hd, rfl⟩ := mem_links.mp hl
    obtain ⟨rfl, rfl⟩ := Prod.mk.inj hab
    use e, he, d, hd, lookup_table (mem_files_of_mem_modules he)
    apply lookup_table (mem_files_of_mem_dependencies he hd)
  · rintro ⟨e, he, d, hd, ha, hb⟩
    use (root.join e.path, root.join d), mem_links.mpr ⟨e, he, rfl, d, hd, rfl⟩
    rw [lookup_table_iff (mem_files_of_mem_modules he)] at ha
    rw [lookup_table_iff (mem_files_of_mem_dependencies he hd)] at hb
    rw [ha, hb]

/-- Both files of such a dependency have numbers. -/
theorem isKnown_dependencies (hfit : Fit (man.files root)) :
  ∀ l ∈ (man.contents root).dependencies, l.1.isKnown ∧ l.2.isKnown
  := by
  rintro ⟨a, b⟩ hl
  obtain ⟨e, he, d, hd, ha, hb⟩ := mem_dependencies_contents.mp hl
  constructor
  · apply Interner.isKnown_of_lookup (t := man.table root) hfit ha
  · apply Interner.isKnown_of_lookup (t := man.table root) hfit hb

/-- In batch mode the graph stays empty. -/
theorem graph_batch (hmode : man.config.mode = .batch) :
  (man.built root).graph = .empty
  := by
  simp [built, Contents.session, hmode]

/-- In suggest mode it has the pairs that the session was told of. -/
theorem graph_suggest (hmode : man.config.mode = .suggest) :
  (man.built root).graph = .ofPairs (man.contents root).dependencies
  := by
  simp [built, Contents.session, hmode]

/-- In suggest mode the edges are the declared dependencies. -/
theorem edges_built (hfit : Fit (man.files root)) (a b : FileId) :
  (a, b) ∈ (man.built root).graph.edges
    ↔ man.config.mode = .suggest ∧ ∃ e ∈ man.modules, ∃ d ∈ e.dependencies,
      (man.table root).lookup (root.join e.path) = some a
        ∧ (man.table root).lookup (root.join d) = some b
  := by
  rw [← mem_dependencies_contents]
  cases hmode : man.config.mode with
  | batch => simp [graph_batch hmode, DependencyGraph.edges_empty]
  | suggest =>
      rw [graph_suggest hmode, (DependencyGraph.edges_ofPairs _ (isKnown_dependencies hfit)).1]
      simp

/-- The graph is open if it has edges. -/
theorem isOpen_built (hfit : Fit (man.files root)) :
  (man.built root).graph.isOpen
    ↔ (man.built root).graph.edges ≠ []
  := by
  cases hmode : man.config.mode with
  | batch =>
      rw [graph_batch hmode, DependencyGraph.edges_empty]
      simp [DependencyGraph.empty]
  | suggest =>
      obtain ⟨hedges, hopen⟩ := DependencyGraph.edges_ofPairs _ (isKnown_dependencies hfit)
      rw [graph_suggest hmode, hopen]
      simp only [ne_eq, List.eq_nil_iff_forall_not_mem, Prod.forall, hedges]

/-! ### The whole session -/

/-- The table of files is that of the declared paths. -/
theorem interner_built :
  (man.built root).interner = man.table root
  := by
  rw [built, Contents.session, contents_eq, table]

/-- The session mirrors the manifest. -/
theorem mirrors_built (hfit : Fit (man.files root)) :
  (man.built root).Mirrors man root
  where
  config := rfl
  files := by
    rw [interner_built]
    rfl
  loaded := by
    intro id
    rw [← loaded_iff, Registry.contains, get_built hfit]
    simp
  modules := by
    intro id
    rw [interner_built]
    apply get_built hfit
  owners := by
    intro file
    rw [interner_built]
    apply owner_built
  edges := by
    rw [interner_built]
    apply edges_built hfit
  isOpen := isOpen_built hfit

/-- Building the session of a manifest with fewer paths than there are numbers is not refused, and
the session mirrors the manifest. -/
theorem buildSession_mirrors (man : Manifest) (root : Path)
    (hfew : ((man.files root).map Path.components).dedup.length < 2 ^ 31) :
  ∃ s, man.buildSession root = .ok s ∧ s.Mirrors man root
  := by
  have hfit : Fit (man.files root) := by
    apply Nat.le_trans (Path.length_firsts_le fun p hp => hp)
    apply Nat.le_of_lt hfew
  exact ⟨_, buildSession_eq_ok_iff.mpr ⟨hfit, rfl⟩, mirrors_built hfit⟩

/-- A module declared twice, in two spellings and with two names, that imports a file which is
also a module, and two modules that share an include. -/
def twiceDeclared : Manifest where
  modules := [
    { path := ⟨"app"⟩, name := some "first", imports := [⟨"util"⟩], includes := [⟨"shared"⟩] },
    { path := ⟨"./app"⟩, name := some "last", includes := [⟨"util"⟩] },
    { path := ⟨"util"⟩, imports := [⟨"util"⟩], includes := [⟨"/p/shared"⟩] }]

theorem twiceDeclared_mirrors :
  ((twiceDeclared.files ⟨"/p"⟩).map Path.components).dedup.length < 2 ^ 31
    ∧ ∃ s, twiceDeclared.buildSession ⟨"/p"⟩ = .ok s ∧ s.Mirrors twiceDeclared ⟨"/p"⟩
  := by
  have hfew : ((twiceDeclared.files ⟨"/p"⟩).map Path.components).dedup.length < 2 ^ 31 := by
    apply Nat.lt_of_le_of_lt (List.dedup_sublist _).length_le
    decide
  use hfew
  apply buildSession_mirrors twiceDeclared ⟨"/p"⟩ hfew

end Manifest

end Recompile
