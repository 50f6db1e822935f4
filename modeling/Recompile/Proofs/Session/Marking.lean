import Std.Data.TreeSet.Lemmas
import Recompile.Session.Dirty
import Recompile.Proofs.Slots
import Recompile.Proofs.Dependency.Records

/-!
# Marking modules

Marking a module, its clients, or all that a change of a file touches, returns a list of loaded
modules and does nothing but set their markers, apart from closing the graph (`Marks`). The list
is in order, and is told by the closed graph alone.
-/

namespace Recompile

open FileId (Ascending)

/-- The module, marked if it is one of a list. -/
def CompiledModule.markIn (ids : List FileId) (m : CompiledModule) : CompiledModule :=
  if m.id ∈ ids then m.mark true else m

namespace CompiledModule

variable {ids ids' : List FileId} {m : CompiledModule}

theorem id_markIn :
  (m.markIn ids).id = m.id
  := by
  rw [markIn]
  split_ifs <;> rfl

/-- Marking the modules of one list and then those of another is marking those of both. -/
theorem markIn_markIn :
  (m.markIn ids).markIn ids' = m.markIn (ids ++ ids')
  := by
  simp only [markIn, List.mem_append]
  split_ifs <;> simp_all [mark]

/-- What is marked depends only on which files are in the list. -/
theorem markIn_congr (h : ∀ x, x ∈ ids' ↔ x ∈ ids) :
  m.markIn ids' = m.markIn ids
  := by
  simp only [markIn, h]

end CompiledModule

open CompiledModule (markIn)

/-- A closed graph is not changed by closing it once more. -/
theorem DependencyGraph.closed_closed (g : DependencyGraph) :
  g.closed.closed = g.closed
  := by
  rw [DependencyGraph.closed, isOpen_closed]
  rfl

namespace Session

variable {s s' s'' : Session} {ids ids' : List FileId} {x id file : FileId}

/-! ### Changing nothing but markers -/

/-- What was done to `s` to get `s'` is marking the modules of a list, and perhaps closing the
graph. -/
structure Marks (s : Session) (ids : List FileId) (s' : Session) : Prop where
  loaded : ∀ x ∈ ids, s.registry.contains x
  registry : s'.registry = s.registry.map (markIn ids)
  graph : s'.graph = s.graph ∨ s'.graph = s.graph.closed
  rest : s' = { s with registry := s'.registry, graph := s'.graph }

theorem marks_nil :
  Marks s [] s
  where
  loaded := by simp
  registry := Registry.map_id.symm
  graph := Or.inl rfl
  rest := rfl

/-- Marking loads and unloads no module. -/
theorem Marks.contains (h : Marks s ids s') :
  s'.registry.contains x = s.registry.contains x
  := by
  rw [Registry.contains, h.registry, Registry.get_map, Option.isSome_map]
  rfl

/-- Marking does not change what the graph is once it is closed. -/
theorem Marks.closed (h : Marks s ids s') :
  s'.graph.closed = s.graph.closed
  := by
  rcases h.graph with hg | hg
  · rw [hg]
  · rw [hg, DependencyGraph.closed_closed]

/-- Marking leaves each module in the slot of its own number. -/
theorem Marks.placed (h : Marks s ids s') (hs : s.registry.Placed) :
  s'.registry.Placed
  := by
  rw [h.registry]
  apply hs.map
  intro m
  apply CompiledModule.id_markIn

/-- Marking one list and then another is marking both. -/
theorem Marks.trans (h : Marks s ids s') (h' : Marks s' ids' s'') :
  Marks s (ids ++ ids') s''
  where
  loaded := by
    intro x hx
    rcases List.mem_append.mp hx with hx | hx
    · apply h.loaded x hx
    · rw [← h.contains]
      apply h'.loaded x hx
  registry := by
    rw [h'.registry, h.registry, Registry.map_map]
    congr 1
    funext m
    apply CompiledModule.markIn_markIn
  graph := by
    rcases h'.graph with hg | hg
    · rw [hg]
      apply h.graph
    · right
      rw [hg, h.closed]
  rest := by
    have h₁ := h.rest
    have h₂ := h'.rest
    rw [h₁] at h₂
    apply h₂

/-- A list of the same files tells as well what was marked. -/
theorem Marks.congr (h : Marks s ids s') (hids : ∀ x, x ∈ ids' ↔ x ∈ ids) :
  Marks s ids' s'
  where
  loaded x hx := h.loaded x ((hids x).mp hx)
  registry := by
    rw [h.registry]
    congr 1
    funext m
    symm
    apply CompiledModule.markIn_congr hids
  graph := h.graph
  rest := h.rest

/-- What is found after marking is what was found before, marked if it is in the list. -/
theorem Marks.get (h : Marks s ids s') :
  s'.registry.get x = (s.registry.get x).map (markIn ids)
  := by
  rw [h.registry, Registry.get_map]

/-! ### One module and its clients -/

/-- Marking one file marks its module, if there is one. -/
theorem marks_markDirty (hs : s.registry.Placed) (id : FileId) :
  Marks s (if s.registry.contains id then [id] else []) (s.markDirty id)
  where
  loaded := by
    intro x hx
    split_ifs at hx with h
    · obtain rfl := List.mem_singleton.mp hx
      apply h
    · cases hx
  registry := by
    rw [markDirty, hs.modify_eq_map]
    apply Registry.map_congr
    intro m hm
    have hm' : s.registry.contains m.id :=
      Registry.contains_iff.mpr ⟨m, hs.mem_modules.mp hm⟩
    by_cases hid : m.id = id
    · subst hid
      simp [markIn, hm']
    · rw [if_neg hid, markIn, if_neg]
      split_ifs <;> simp [hid]
  graph := Or.inl rfl
  rest := rfl

/-- The clients of a file are the loaded modules with an edge to it in the graph as it is. -/
theorem mem_clients (hs : s.registry.Placed) :
  x ∈ s.clients id ↔ s.registry.contains x ∧ s.graph.contains x id
  := by
  rw [clients, hs.mem_map_filter, Registry.contains_iff]
  constructor
  · rintro ⟨m, hm, hg⟩
    obtain rfl := hs.id_eq hm
    use ⟨m, hm⟩, hg
  · rintro ⟨⟨m, hm⟩, hg⟩
    obtain rfl := hs.id_eq hm
    use m, hm, hg

/-- The clients that are marked are the loaded modules with an edge in the closed graph. -/
theorem mem_markClients (hs : s.registry.Placed) :
  x ∈ (s.markClients id).1 ↔ s.registry.contains x ∧ s.graph.closed.contains x id
  := mem_clients hs

/-- Clients are listed in order and once each. -/
theorem markClients_ascending (hs : s.registry.Placed) :
  Ascending (s.markClients id).1
  := hs.map_filter_ascending _

/-- Marking the clients of a file does what it says and no more. -/
theorem marks_markClients (hs : s.registry.Placed) (id : FileId) :
  Marks s (s.markClients id).1 (s.markClients id).2
  where
  loaded x hx := ((mem_markClients hs).mp hx).1
  registry := by
    apply Registry.map_congr
    intro m hm
    have hm' : s.registry.contains m.id :=
      Registry.contains_iff.mpr ⟨m, hs.mem_modules.mp hm⟩
    rw [markIn]
    congr 1
    rw [mem_markClients hs]
    simp [hm', close]
  graph := Or.inr rfl
  rest := rfl

/-! ### All that a change of a file touches -/

/-- A loaded module is its own parent. -/
theorem parent_of_contains (h : s.registry.contains file) :
  s.parent file = file
  := if_pos h

/-- The parent of any other file is its owner. Without one it has no known parent. -/
theorem parent_of_not_contains (h : ¬ s.registry.contains file) :
  s.parent file = (s.ownership.owner file).getD .unknown
  := if_neg h

theorem touchOwner_eq (hs : s.registry.Placed) (hid : id.isKnown) :
  s.touchOwner id
    = ((if s.registry.contains id then [id] else []) ++ ((s.markDirty id).markClients id).1,
        ((s.markDirty id).markClients id).2)
  := by
  rw [← (marks_markDirty hs id).contains, touchOwner, if_pos hid]

/-- What a change of a module touches is the module itself, if it is loaded, and all loaded modules
with an edge to it in the closed graph. -/
theorem mem_touchOwner (hs : s.registry.Placed) :
  x ∈ (s.touchOwner id).1
    ↔ s.registry.contains x ∧ id.isKnown ∧ (x = id ∨ s.graph.closed.contains x id)
  := by
  by_cases hid : id.isKnown
  · have h := marks_markDirty hs id
    rw [touchOwner_eq hs hid, List.mem_append, mem_markClients (h.placed hs), h.closed, h.contains]
    by_cases hx : x = id
    · subst hx
      split_ifs with hc <;> simp [hc, hid]
    · split_ifs <;> simp [hx, hid]
  · simp [touchOwner, hid]

/-- Touching a module marks what is listed and does no more. -/
theorem marks_touchOwner (hs : s.registry.Placed) (id : FileId) :
  Marks s (s.touchOwner id).1 (s.touchOwner id).2
  := by
  by_cases hid : id.isKnown
  · have h := marks_markDirty hs id
    rw [touchOwner_eq hs hid]
    apply h.trans (marks_markClients (h.placed hs) id)
  · rw [touchOwner, if_neg hid]
    apply marks_nil

theorem mem_inOrder :
  x ∈ inOrder ids ↔ x ∈ ids
  := by
  simp [inOrder, Std.TreeSet.mem_toList, Std.TreeSet.mem_ofList]

/-- A list that is put in order has each of its files once. -/
theorem inOrder_ascending :
  Ascending (inOrder ids)
  := by
  apply List.Pairwise.imp _ Std.TreeSet.ordered_toList
  intro x y h
  have h' : compare x.val y.val = .lt := h
  apply Std.compare_eq_lt.mp h'

/-- A change of a file that is not its own parent touches the parent, and then marks the clients of
the file. -/
theorem invalidate_eq (hmode : s.suggests) (hfile : file ≠ s.parent file) :
  s.invalidate file
    = (inOrder ((s.touchOwner (s.parent file)).1
          ++ ((s.touchOwner (s.parent file)).2.markClients file).1),
        ((s.touchOwner (s.parent file)).2.markClients file).2)
  := by
  simp only [invalidate, if_pos hmode, if_neg hfile]

theorem invalidate_eq_of_parent (hmode : s.suggests) (hfile : file = s.parent file) :
  s.invalidate file
    = (inOrder (s.touchOwner (s.parent file)).1, (s.touchOwner (s.parent file)).2)
  := by
  simp only [invalidate, if_pos hmode, if_pos hfile, List.append_nil]

/-- What a change of a file touches: the module it belongs to, if there is one, and all loaded
modules with an edge to either in the closed graph. -/
theorem mem_invalidate (hs : s.registry.Placed) :
  x ∈ (s.invalidate file).1
    ↔ s.suggests ∧ s.registry.contains x
      ∧ ((s.parent file).isKnown ∧ (x = s.parent file ∨ s.graph.closed.contains x (s.parent file))
        ∨ file ≠ s.parent file ∧ s.graph.closed.contains x file)
  := by
  by_cases hmode : s.suggests
  · by_cases hfile : file = s.parent file
    · rw [invalidate_eq_of_parent hmode hfile, mem_inOrder, mem_touchOwner hs]
      simp [hmode, ← hfile]
    · have h := marks_touchOwner hs (s.parent file)
      rw [invalidate_eq hmode hfile, mem_inOrder, List.mem_append, mem_touchOwner hs,
        mem_markClients (h.placed hs), h.contains, h.closed]
      simp [hmode, hfile, and_or_left]
  · simp [invalidate, hmode]

/-- What a change touches is listed in order and once each. -/
theorem invalidate_ascending :
  Ascending (s.invalidate file).1
  := by
  rw [invalidate]
  split
  · apply inOrder_ascending
  · apply List.Pairwise.nil

/-- A change of a file marks what is listed and does no more. -/
theorem marks_invalidate (hs : s.registry.Placed) (file : FileId) :
  Marks s (s.invalidate file).1 (s.invalidate file).2
  := by
  by_cases hmode : s.suggests
  · have h := marks_touchOwner hs (s.parent file)
    by_cases hfile : file = s.parent file
    · rw [invalidate_eq_of_parent hmode hfile]
      apply h.congr
      apply mem_inOrder
    · rw [invalidate_eq hmode hfile]
      apply (h.trans (marks_markClients (h.placed hs) file)).congr
      apply mem_inOrder
  · rw [invalidate, if_neg hmode]
    apply marks_nil

end Session

end Recompile
