import Recompile.Proofs.Dependency.History
import Recompile.Proofs.FileTable
import Recompile.Proofs.Session.Steps

/-!
# What a session was told

A session that has only been told of files, modules, dependencies and includes is determined by
them (`Contents.session`). Telling it one more puts that at the end of what it was told before,
and its tables are told from the lists: a slot holds the last module that claims it, a file
belongs to the first module that includes it, and the edges are the dependencies.
-/

namespace Recompile

/-! ### Tables told from lists -/

namespace Registry

variable {id : FileId}

/-- A slot holds the last module that claims it. -/
theorem get_foldl_withModule (ms : List CompiledModule) (hms : ∀ m ∈ ms, m.id.isKnown) :
  (ms.foldl withModule empty).get id = ms.reverse.find? fun m => m.id = id
  := by
  induction ms using List.reverseRecOn with
  | nil => apply get_empty
  | append_singleton ms m ih =>
      have hm : m.id.isKnown := hms m (List.mem_append_right _ (List.mem_singleton_self m))
      rw [List.foldl_concat, get_withModule hm, ih fun m' h => hms m' (List.mem_append_left _ h),
        List.reverse_concat, List.find?_cons]
      split_ifs with h
      · simp [h]
      · simp [Ne.symm h]

/-- Modules with numbers are put into the slots of their own numbers. -/
theorem placed_foldl_withModule (ms : List CompiledModule) (hms : ∀ m ∈ ms, m.id.isKnown) :
  (ms.foldl withModule empty).Placed
  := by
  induction ms using List.reverseRecOn with
  | nil => apply placed_empty
  | append_singleton ms m ih =>
      rw [List.foldl_concat]
      apply Placed.withModule
      · apply ih fun m' h => hms m' (List.mem_append_left _ h)
      · apply hms m (List.mem_append_right _ (List.mem_singleton_self m))

end Registry

namespace Ownership

variable {file : FileId}

/-- The table once a module has included a file. -/
def own (t : Ownership) (l : FileId × FileId) : Ownership := (t.record l.2 l.1).2

/-- A file belongs to the first module that includes it. -/
theorem owner_foldl_own (ls : List (FileId × FileId)) :
  (ls.foldl own empty).owner file = (ls.find? fun l => l.2 = file).map Prod.fst
  := by
  induction ls using List.reverseRecOn with
  | nil => rfl
  | append_singleton ls l ih =>
      rw [List.foldl_concat, own, owner_record, List.find?_append, Option.map_or, ← ih]
      split_ifs with h
      · subst h
        cases (ls.foldl own empty).owner l.2 with
        | none => simp
        | some owner => rfl
      · simp [Ne.symm h]

end Ownership

namespace DependencyGraph

theorem edges_empty :
  empty.edges = []
  := rfl

/-- The graph of the pairs of a list. -/
def ofPairs (ls : List (FileId × FileId)) : DependencyGraph :=
  (run (ls.map fun l => .insert l.1 l.2)).1

theorem ofPairs_concat (ls : List (FileId × FileId)) (l : FileId × FileId) :
  ofPairs (ls ++ [l]) = ((ofPairs ls).step (.insert l.1 l.2)).1
  := by
  rw [ofPairs, List.map_append, run, runSteps_append]
  rfl

/-- The graph of some pairs has these for its edges, and is open if there are any. -/
theorem edges_ofPairs (ls : List (FileId × FileId))
    (hls : ∀ l ∈ ls, l.1.isKnown ∧ l.2.isKnown) :
  (∀ a b, (a, b) ∈ (ofPairs ls).edges ↔ (a, b) ∈ ls) ∧ ((ofPairs ls).isOpen ↔ ls ≠ [])
  := by
  induction ls using List.reverseRecOn with
  | nil =>
      constructor
      · intro a b
        simp [ofPairs, run, edges_empty]
      · simp [ofPairs, run, empty]
  | append_singleton ls l ih =>
      obtain ⟨hedges, hopen⟩ := ih fun l' h => hls l' (List.mem_append_left _ h)
      obtain ⟨hdependent, hdependency⟩ :=
        hls l (List.mem_append_right _ (List.mem_singleton_self l))
      obtain ⟨added, g, hg⟩ := insert_eq_ok (g := ofPairs ls) hdependent hdependency
      have hnext : ofPairs (ls ++ [l]) = g := by rw [ofPairs_concat, step, hg]
      rw [hnext]
      obtain ⟨-, ⟨hold, rfl⟩ | rfl⟩ := insert_cases hg
      · -- The pair was inserted before.
        have hmem : l ∈ ls := (hedges l.1 l.2).mp (mem_edges.mpr hold)
        constructor
        · intro a b
          rw [hedges, List.mem_append, List.mem_singleton]
          constructor
          · apply Or.inl
          · rintro (h | rfl)
            · apply h
            · apply hmem
        · rw [hopen]
          simp [List.ne_nil_of_mem hmem]
      · constructor
        · intro a b
          rw [mem_edges, edge_insert, ← mem_edges, hedges, List.mem_append, List.mem_singleton,
            Prod.ext_iff]
        · simp

/-- The graph of some pairs tells of them, if all their files have numbers. -/
theorem tellsOf_ofPairs (ls : List (FileId × FileId))
    (hls : ∀ l ∈ ls, l.1.isKnown ∧ l.2.isKnown) :
  (ofPairs ls).TellsOf ls
  := by
  have hinserted : inserted (ls.map fun l => .insert l.1 l.2) = ls := by
    induction ls using List.reverseRecOn with
    | nil => rfl
    | append_singleton ls l ih =>
        rw [List.map_append, inserted, List.map_singleton, List.foldl_concat, ← inserted,
          ih fun l' h => hls l' (List.mem_append_left _ h), noteStep, if_pos]
        apply hls l (List.mem_append_right _ (List.mem_singleton_self l))
  have h := tellsOf_run (ls.map fun l => .insert l.1 l.2)
  rw [hinserted] at h
  apply h

end DependencyGraph

/-! ### Contents -/

/-- What a session is told while it is made. -/
structure Contents where
  files : List Path := []
  modules : List CompiledModule := []
  /-- Which module depends on which file. -/
  dependencies : List (FileId × FileId) := []
  /-- Which module includes which file. -/
  includes : List (FileId × FileId) := []

namespace Contents

/-- What is told by the one and then by the other. -/
instance : Append Contents where
  append c d := {
    files := c.files ++ d.files
    modules := c.modules ++ d.modules
    dependencies := c.dependencies ++ d.dependencies
    includes := c.includes ++ d.includes }

/-- What is told by each of a list, one after another. -/
def each (cs : List Contents) : Contents where
  files := cs.flatMap files
  modules := cs.flatMap modules
  dependencies := cs.flatMap dependencies
  includes := cs.flatMap includes

/-- The session that was told `c`, and nothing else. -/
def session (config : Config) (c : Contents) : Session where
  config
  interner := .listing c.files
  registry := c.modules.foldl .withModule .empty
  ownership := c.includes.foldl .own .empty
  graph := if config.mode = .suggest then .ofPairs c.dependencies else .empty

variable {config : Config} {c d : Contents} {p : Path} {m : CompiledModule} {id : FileId}

theorem append_def (c d : Contents) :
  c ++ d = {
    files := c.files ++ d.files
    modules := c.modules ++ d.modules
    dependencies := c.dependencies ++ d.dependencies
    includes := c.includes ++ d.includes }
  := rfl

theorem append_each_nil (c : Contents) :
  c ++ each [] = c
  := by
  cases c
  simp [append_def, each]

theorem append_assoc (c d e : Contents) :
  c ++ d ++ e = c ++ (d ++ e)
  := by
  simp [append_def]

theorem each_cons (c : Contents) (cs : List Contents) :
  each (c :: cs) = c ++ each cs
  := rfl

/-- What comes later does not change the order of the files. -/
theorem prefix_append (c d : Contents) :
  c.files <+: (c ++ d).files
  := List.prefix_append _ _

theorem fit_of_append (h : Path.Fit (c ++ d).files) :
  Path.Fit c.files
  := Path.Fit.of_append h

/-- A new session has been told nothing. -/
theorem new_eq_session (config : Config) :
  Session.new config = ({} : Contents).session config
  := by
  rw [Session.new, session]
  split_ifs
  · rfl
  · rfl

/-! ### Telling one thing more -/

/-- Telling a session of files changes its table of files and nothing else. -/
theorem session_files (ps : List Path) :
  (c ++ { files := ps }).session config
    = { c.session config with interner := .listing (c.files ++ ps) }
  := by
  simp [session, append_def]

/-- Telling it of a module puts this into its slot. -/
theorem session_module (m : CompiledModule) :
  (c ++ { modules := [m] }).session config
    = { c.session config with registry := (c.session config).registry.withModule m }
  := by
  simp [session, append_def]

/-- Telling it of a dependency inserts this in suggest mode. -/
theorem session_dependency (l : FileId × FileId) :
  (c ++ { dependencies := [l] }).session config
    = { c.session config with
        graph := if (c.session config).suggests then
            ((c.session config).graph.step (.insert l.1 l.2)).1
          else (c.session config).graph }
  := by
  cases hmode : config.mode with
  | batch => simp [session, append_def, Session.suggests, hmode]
  | suggest => simp [session, append_def, Session.suggests, hmode, DependencyGraph.ofPairs_concat]

/-- Telling it of an include settles the owner of a file that has none. -/
theorem session_include (l : FileId × FileId) :
  (c ++ { includes := [l] }).session config
    = { c.session config with ownership := (c.session config).ownership.own l }
  := by
  simp [session, append_def]

/-- A path is given the number it has among all files of a project, of which the session has been
told the first. -/
theorem intern_session {files : List Path} (hfit : Path.Fit c.files)
    (hfiles : (c ++ { files := [p] }).files <+: files) :
  (c.session config).intern p
    = if Path.Fit (c ++ { files := [p] }).files then
        ((c ++ { files := [p] }).session config, .ok (Interner.number files p))
      else (c.session config, .error (.fileLimit p))
  := by
  have hnumber : Interner.number files p = Interner.number (c.files ++ [p]) p :=
    Interner.number_eq_of_first hfiles (List.mem_append_right _ (List.mem_singleton_self p))
  have hintern : (c.session config).interner.intern p
      = if Path.Fit (c ++ { files := [p] }).files then
          .ok (Interner.number (c.files ++ [p]) p, .listing (c.files ++ [p]))
        else .error (.fileLimit p) := Interner.intern_listing hfit p
  rw [Session.intern, hintern, hnumber, session_files]
  split_ifs
  · rfl
  · rfl

/-- Registering a module is telling the session of it. -/
theorem register_session (hm : m.id.isKnown) :
  (c.session config).register m
    = ((c ++ { modules := [m] }).session config, .ok ((c.session config).registry.get m.id))
  := by
  rw [Session.register_eq_ok hm, session_module]

/-- Adding a sound dependency is telling the session of it, and is not refused. -/
theorem addDep_session (hm : m.id = m.origin) (hknown : m.id.isKnown) (hid : id.isKnown) :
  (c.session config).addDep m id
    = ((c ++ { dependencies := [(m.id, id)] }).session config, .ok ())
  := by
  apply Prod.ext
  · rw [Session.fst_addDep, if_pos ⟨hm, hid⟩, session_dependency]
    rfl
  · obtain ⟨added, g, hg⟩ :=
      DependencyGraph.insert_eq_ok (g := (c.session config).graph) hknown hid
    rw [Session.snd_addDep, if_neg (not_not_intro hm), hid, hg]
    simp [Except.map]

/-- Adding an include is telling the session of it. -/
theorem addInclude_session (module file : FileId) :
  (c.session config).addInclude module file
    = (c ++ { includes := [(module, file)] }).session config
  := by
  rw [session_include]
  rfl

end Contents

end Recompile
