import Mathlib.Data.List.Dedup
import Recompile.Proofs.Session.Steps

/-!
# Series of changes

What a change touches is told by the loaded modules, the owners and the closed graph, and a change
does no more than mark what it touches and perhaps close the graph. So the changes of a series do
not influence one another: each touches what it would touch alone, and after all of them the
session is the one in which everything touched is marked (`Session.afterChanges`), in whatever
order the changes came.
-/

namespace Recompile

open FileId (Ascending)
open CompiledModule (markIn)

namespace Session

variable {s s' t : Session} {ids : List FileId} {x id file : FileId} {files files' : List FileId}

/-! ### What a single change leaves behind -/

/-- A change of the file looks for clients, which closes the graph. -/
def asksClients (s : Session) (file : FileId) : Bool :=
  s.suggests && ((s.parent file).isKnown || file ≠ s.parent file)

theorem graph_touchOwner :
  (s.touchOwner id).2.graph = if id.isKnown then s.graph.closed else s.graph
  := by
  rw [touchOwner]
  split_ifs <;> rfl

/-- A change of a file closes the graph if it looks for clients, and else leaves it as it is. -/
theorem graph_invalidate :
  (s.invalidate file).2.graph = if s.asksClients file then s.graph.closed else s.graph
  := by
  by_cases hmode : s.suggests
  · by_cases hfile : file = s.parent file
    · -- The file is its own parent, or it is unknown and has none.
      rw [invalidate_eq_of_parent hmode hfile, graph_touchOwner]
      simp [asksClients, hmode, ← hfile]
    · have hasks : s.asksClients file := by simp [asksClients, hmode, hfile]
      have hgraph : ((s.touchOwner (s.parent file)).2.markClients file).2.graph
          = (s.touchOwner (s.parent file)).2.graph.closed := rfl
      rw [invalidate_eq hmode hfile, hgraph, graph_touchOwner, if_pos hasks]
      split_ifs
      · apply DependencyGraph.closed_closed
      · rfl
  · simp [invalidate, asksClients, hmode]

/-- A change marks what it touches and does nothing else, apart from closing the graph. -/
theorem snd_invalidate (hs : s.registry.Placed) (file : FileId) :
  (s.invalidate file).2
    = { s with
        registry := s.registry.map (markIn (s.invalidate file).1)
        graph := if s.asksClients file then s.graph.closed else s.graph }
  := by
  have h := marks_invalidate hs file
  rw [← h.registry, ← graph_invalidate]
  apply h.rest

/-- Two sessions with the same loaded modules, owners and closed graph are touched alike. -/
theorem fst_invalidate_congr (hs : s.registry.Placed) (ht : t.registry.Placed)
    (hmode : t.suggests = s.suggests)
    (hloaded : ∀ x, t.registry.contains x = s.registry.contains x)
    (hparent : t.parent file = s.parent file) (hgraph : t.graph.closed = s.graph.closed) :
  (t.invalidate file).1 = (s.invalidate file).1
  := by
  apply List.Pairwise.eq_of_mem_iff invalidate_ascending invalidate_ascending
  intro x
  rw [mem_invalidate ht, mem_invalidate hs, hmode, hloaded, hparent, hgraph]

/-! ### What marking leaves alone -/

theorem Marks.suggests_eq (h : s.Marks ids s') :
  s'.suggests = s.suggests
  := by
  rw [h.rest]
  rfl

theorem Marks.parent_eq (h : s.Marks ids s') (file : FileId) :
  s'.parent file = s.parent file
  := by
  rw [parent, h.contains, h.rest]
  rfl

/-- Whether a change looks for clients does not depend on which modules are marked. -/
theorem Marks.asksClients_eq (h : s.Marks ids s') (file : FileId) :
  s'.asksClients file = s.asksClients file
  := by
  rw [asksClients, asksClients, h.suggests_eq, h.parent_eq]

/-- What a change touches does not depend on which modules are marked. -/
theorem Marks.fst_invalidate_eq (h : s.Marks ids s') (hs : s.registry.Placed) (file : FileId) :
  (s'.invalidate file).1 = (s.invalidate file).1
  := by
  apply fst_invalidate_congr hs (h.placed hs) h.suggests_eq
  · intro x
    apply h.contains
  · apply h.parent_eq
  · apply h.closed

/-! ### One change after another -/

/-- What the changes of some files touch, file by file. -/
def touched (s : Session) (files : List FileId) : List FileId :=
  files.flatMap fun file => (s.invalidate file).1

/-- The session with everything marked that the changes of some files touch. -/
def afterChanges (s : Session) (files : List FileId) : Session :=
  { s with
    registry := s.registry.map (markIn (s.touched files))
    graph := if files.any s.asksClients then s.graph.closed else s.graph }

theorem afterChanges_nil :
  s.afterChanges [] = s
  := by
  have h : s.registry.map (markIn []) = s.registry := Registry.map_id
  rw [afterChanges, touched, List.flatMap_nil, h]
  rfl

/-- A change before others adds what it touches to what they touch. -/
theorem afterChanges_cons (hs : s.registry.Placed) :
  s.afterChanges (file :: files) = (s.invalidate file).2.afterChanges files
  := by
  have h := marks_invalidate hs file
  -- The first change does not alter what the others touch, nor which of them look for clients.
  have htouched : (s.invalidate file).2.touched files = s.touched files := by
    simp only [touched, h.fst_invalidate_eq hs]
  have hasks : (s.invalidate file).2.asksClients = s.asksClients := by
    funext x
    apply h.asksClients_eq
  have hregistry : s.registry.map (markIn (s.touched (file :: files)))
      = (s.invalidate file).2.registry.map (markIn (s.touched files)) := by
    simp only [h.registry, Registry.map_map, CompiledModule.markIn_markIn]
    rfl
  have hgraph : (if (file :: files).any s.asksClients then s.graph.closed else s.graph)
      = if files.any s.asksClients then (s.invalidate file).2.graph.closed
        else (s.invalidate file).2.graph := by
    rw [h.closed, graph_invalidate, List.any_cons]
    by_cases hfile : s.asksClients file
    · simp [hfile]
    · simp [hfile]
  rw [afterChanges, afterChanges, htouched, hasks, hregistry, hgraph, h.rest]

/-- A series of changes marks what it touches and does no more. -/
theorem marks_afterChanges (hs : s.registry.Placed) (files : List FileId) :
  s.Marks (s.touched files) (s.afterChanges files)
  where
  loaded := by
    intro x hx
    obtain ⟨file, -, hx⟩ := List.mem_flatMap.mp hx
    apply (marks_invalidate hs file).loaded x hx
  registry := rfl
  graph := by
    rw [afterChanges]
    split_ifs
    · right
      rfl
    · left
      rfl
  rest := rfl

/-- In suggest mode the dirty modules are those that are marked. In batch mode there are none. -/
theorem mem_dirtyModules (hs : s.registry.Placed) :
  x ∈ s.dirtyModules ↔ s.suggests ∧ ∃ m, s.registry.get x = some m ∧ m.dirty
  := by
  rw [dirtyModules]
  split_ifs with hmode
  · rw [hs.mem_map_filter]
    simp [hmode]
  · simp [hmode]

/-- They are listed in order and once each. -/
theorem dirtyModules_ascending (hs : s.registry.Placed) :
  Ascending s.dirtyModules
  := by
  rw [dirtyModules]
  split_ifs
  · apply hs.map_filter_ascending
  · apply List.Pairwise.nil

/-- A module is dirty if it is one of the dirty modules. -/
theorem isDirty_iff (hs : s.registry.Placed) :
  s.isDirty x ↔ x ∈ s.dirtyModules
  := by
  rw [mem_dirtyModules hs, isDirty, Bool.and_eq_true, Option.any_eq_true]

/-- Marking adds the modules of the list to those that were dirty before. -/
theorem Marks.mem_dirtyModules (h : s.Marks ids s') (hs : s.registry.Placed) :
  x ∈ s'.dirtyModules ↔ x ∈ s.dirtyModules ∨ s.suggests ∧ x ∈ ids
  := by
  rw [Session.mem_dirtyModules hs, Session.mem_dirtyModules (h.placed hs), h.suggests_eq, h.get]
  constructor
  · rintro ⟨hmode, m', hm', hdirty⟩
    obtain ⟨m, hm, rfl⟩ := Option.map_eq_some_iff.mp hm'
    obtain rfl := hs.id_eq hm
    by_cases hx : m.id ∈ ids
    · right
      use hmode, hx
    · left
      rw [markIn, if_neg hx] at hdirty
      use hmode, m, hm, hdirty
  · rintro (⟨hmode, m, hm, hdirty⟩ | ⟨hmode, hx⟩)
    · use hmode, m.markIn ids
      constructor
      · rw [hm, Option.map_some]
      · rw [markIn]
        split_ifs
        · rfl
        · apply hdirty
    · obtain ⟨m, hm⟩ := Registry.contains_iff.mp (h.loaded x hx)
      obtain rfl := hs.id_eq hm
      use hmode, m.markIn ids
      constructor
      · rw [hm, Option.map_some]
      · rw [markIn, if_pos hx]
        rfl

/-- What a series touches is added to the modules that were dirty before. -/
theorem mem_dirtyModules_afterChanges (hs : s.registry.Placed) :
  x ∈ (s.afterChanges files).dirtyModules ↔ x ∈ s.dirtyModules ∨ x ∈ s.touched files
  := by
  rw [(marks_afterChanges hs files).mem_dirtyModules hs]
  -- A change touches something in suggest mode only.
  have hmode (hx : x ∈ s.touched files) : s.suggests := by
    obtain ⟨file, -, hfile⟩ := List.mem_flatMap.mp hx
    apply ((mem_invalidate hs).mp hfile).1
  rw [and_iff_right_of_imp hmode]

/-- If no module was dirty before, a series leaves as many dirty as it touches. -/
theorem length_dirtyModules_afterChanges (hs : s.registry.Placed) (hclean : s.dirtyModules = [])
    (files : List FileId) :
  (s.afterChanges files).dirtyModules.length = (s.touched files).dedup.length
  := by
  have hplaced := (marks_afterChanges hs files).placed hs
  apply List.Perm.length_eq
  rw [List.perm_ext_iff_of_nodup (dirtyModules_ascending hplaced).nodup (List.nodup_dedup _)]
  intro x
  rw [List.mem_dedup, mem_dirtyModules_afterChanges hs, hclean]
  simp

end Session

end Recompile
