import Recompile.Proofs.Manifest.Tables

/-!
# What a session knows

A freshly built session knows a list of files, a list of modules and a list of links between paths
(`Session.Knows`), and each file with an owner is linked to it (`Session.Owned`). In suggest mode
the session of a manifest knows what the manifest declares.
-/

namespace Recompile

open Recompile.Path (Fit)

namespace Session

variable {s : Session} {files : List Path} {modules : List (Path × CompiledModule)}
  {links : List (Path × Path)}

/-- A link leads from a path of the first file to one of the second. -/
def Linked (s : Session) (links : List (Path × Path)) (a b : FileId) : Prop :=
  ∃ p q, (p, q) ∈ links ∧ s.interner.lookup p = some a ∧ s.interner.lookup q = some b

/-- The session has numbered the files, holds the modules with their paths, and has been told of
the links. -/
structure Knows (s : Session) (files : List Path) (modules : List (Path × CompiledModule))
    (links : List (Path × Path)) : Prop where
  suggests : s.suggests
  lists : s.interner.Lists files
  few : (Path.firsts files).length ≤ 2 ^ 31
  placed : s.registry.Placed
  numbered : ∀ p m, (p, m) ∈ modules →
    p ∈ files ∧ s.interner.lookup p = some m.id ∧ m.id = m.origin
  loaded : ∀ id, s.registry.contains id ↔ ∃ p m, (p, m) ∈ modules ∧ m.id = id
  linked : ∀ p q, (p, q) ∈ links → p ∈ files ∧ q ∈ files
  graph : s.graph.Records (s.Linked links)

/-- Whoever owns a file is a loaded module that is linked to it. -/
def Owned (s : Session) (links : List (Path × Path)) : Prop :=
  ∀ file owner, s.ownership.owner file = some owner →
    s.registry.contains owner ∧ s.Linked links owner file

theorem Knows.size_le (h : s.Knows files modules links) :
  s.interner.paths.size ≤ 2 ^ 31
  := by
  rw [← Array.length_toList, h.lists]
  apply h.few

end Session

/-! ### What the session of a manifest knows -/

namespace Manifest

variable {man : Manifest} {root : Path} {s : Session} {a b : FileId}

/-- Two files are linked exactly if some entry is for the first and imports or includes the second.
-/
theorem linked_iff :
  s.Linked (man.links root) a b
    ↔ ∃ e ∈ man.modules, ∃ d ∈ e.dependencies,
      s.interner.lookup (root.join e.path) = some a ∧ s.interner.lookup (root.join d) = some b
  := by
  constructor
  · rintro ⟨p, q, hl, ha, hb⟩
    obtain ⟨e, he, rfl, d, hd, rfl⟩ := mem_links.mp hl
    use e, he, d, hd
  · rintro ⟨e, he, d, hd, ha, hb⟩
    use root.join e.path, root.join d, mem_links.mpr ⟨e, he, rfl, d, hd, rfl⟩

/-- In suggest mode the graph records the declared links. -/
theorem records_built (hmode : man.config.mode = .suggest) (hfit : Fit (man.files root)) :
  (man.built root).graph.Records
    ((man.built root).Linked (man.links root))
  := by
  rw [graph_suggest hmode]
  apply (DependencyGraph.tellsOf_ofPairs _ (isKnown_dependencies hfit)).congr
  intro a b
  rw [linked_iff, interner_built, mem_dependencies_contents]

/-- In the session of a manifest an owner is a module that includes the file. -/
theorem owned_built (hfit : Fit (man.files root)) :
  (man.built root).Owned (man.links root)
  := by
  intro file owner howner
  have h := mirrors_built hfit
  rw [h.owners, Option.bind_eq_some_iff] at howner
  obtain ⟨e, hfind, hlookup⟩ := howner
  have he := List.mem_of_find?_eq_some hfind
  obtain ⟨d, hd, hfile⟩ : ∃ d ∈ e.includes,
      (man.built root).interner.lookup (root.join d) = some file := by
    simpa using List.find?_some hfind
  constructor
  · apply h.contains_iff.mpr
    use e, he
  · apply linked_iff.mpr
    use e, he, d, List.mem_append_right _ hd

/-- In suggest mode building the session of a manifest is not refused, and the session knows
what the manifest declares. -/
theorem buildSession_ok {man : Manifest} (hmode : man.config.mode = .suggest)
    (hroom : (Path.firsts (man.files root)).length ≤ 2 ^ 31) :
  ∃ ms s, man.buildSession root = .ok s ∧ ms.length = man.modules.length
    ∧ s.Knows (man.files root) ((man.modules.zip ms).map fun em => (root.join em.1.path, em.2))
      (man.links root)
    ∧ s.Owned (man.links root)
  := by
  use man.modules.map (·.module (man.files root) root), man.built root
  use buildSession_eq_ok_iff.mpr ⟨hroom, rfl⟩, List.length_map _
  rw [← List.map_prod_left_eq_zip, List.map_map]
  constructor
  · exact {
      suggests := decide_eq_true hmode
      lists := (mirrors_built hroom).files
      few := hroom
      placed := placed_built hroom
      numbered := by
        intro p m hm
        obtain ⟨e, he, heq⟩ := List.mem_map.mp hm
        obtain ⟨rfl, rfl⟩ := Prod.mk.inj heq
        have hp : root.join e.path ∈ man.files root := mem_files_of_mem_modules he
        use hp
        rw [interner_built]
        use lookup_table hp
        rfl
      loaded := by
        intro id
        rw [(mirrors_built hroom).contains_iff, interner_built]
        constructor
        · rintro ⟨e, he, hid⟩
          use root.join e.path, e.module (man.files root) root, List.mem_map.mpr ⟨e, he, rfl⟩
          apply (lookup_table_iff (mem_files_of_mem_modules he)).mp hid
        · rintro ⟨p, m, hm, hid⟩
          obtain ⟨e, he, heq⟩ := List.mem_map.mp hm
          obtain ⟨rfl, rfl⟩ := Prod.mk.inj heq
          use e, he, (lookup_table_iff (mem_files_of_mem_modules he)).mpr hid
      linked := by
        intro p q hl
        obtain ⟨e, he, rfl, d, hd, rfl⟩ := mem_links.mp hl
        use mem_files_of_mem_modules he, mem_files_of_mem_dependencies he hd
      graph := records_built hmode hroom }
  · apply owned_built hroom

end Manifest

end Recompile
