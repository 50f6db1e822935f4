import Mathlib.Data.List.Nodup
import Mathlib.Data.List.TFAE
import Recompile.CommandLine.Run
import Recompile.Proofs.Manifest.Changes

/-!
# Reports that agree

The drawing of a session, and in the report of each file the list of what it depends on and the
list of what depends on it, are read from the closed graph in three ways. They tell of the same
pairs of files, which for the session of a manifest are those that its declarations lead to.
-/

namespace Recompile

open FileId (Ascending)

/-! ### The files of a graph -/

namespace DependencyGraph

variable {g : DependencyGraph} {a b x : FileId}

theorem mem_foldl_insert (es : List (FileId × FileId)) (files : Std.TreeSet FileId) :
  x ∈ es.foldl (fun files e => (files.insert e.1).insert e.2) files
    ↔ x ∈ files ∨ ∃ e ∈ es, x = e.1 ∨ x = e.2
  := by
  induction es generalizing files with
  | nil => simp
  | cons e es ih =>
      rw [List.foldl_cons, ih, Std.TreeSet.mem_insert, Std.TreeSet.mem_insert,
        Std.compare_eq_iff_eq, Std.compare_eq_iff_eq]
      simp only [List.mem_cons, exists_eq_or_imp]
      simp only [or_assoc, or_left_comm, eq_comm]

/-- The files of a graph are the ends of its edges. -/
theorem mem_nodes :
  x ∈ g.nodes ↔ ∃ y, (x, y) ∈ g.edges ∨ (y, x) ∈ g.edges
  := by
  rw [nodes, Std.TreeSet.mem_toList, mem_foldl_insert]
  constructor
  · rintro (h | ⟨⟨a, b⟩, hab, rfl | rfl⟩)
    · cases Std.TreeSet.not_mem_emptyc h
    · use b, Or.inl hab
    · use a, Or.inr hab
  · rintro ⟨y, h | h⟩
    · exact .inr ⟨(x, y), h, .inl rfl⟩
    · exact .inr ⟨(y, x), h, .inr rfl⟩

/-- Both ends of an edge are among the files of the graph. -/
theorem ends_mem_nodes (h : (a, b) ∈ g.edges) :
  a ∈ g.nodes ∧ b ∈ g.nodes
  := by
  rw [mem_nodes, mem_nodes]
  use ⟨b, .inl h⟩, a, .inr h

/-- Each file is listed once. -/
theorem nodup_nodes (g : DependencyGraph) :
  g.nodes.Nodup
  := by
  apply Std.TreeSet.distinct_toList.imp
  intro a b h hab
  apply h
  rw [hab, Std.compare_eq_iff_eq]

/-- Each edge is listed once. -/
theorem nodup_edges (g : DependencyGraph) :
  g.edges.Nodup
  := by
  apply List.Nodup.map
  · intro k k' h
    obtain ⟨ha, hb⟩ := Prod.mk.inj h
    rw [← k.pack_decode, ha, hb, k'.pack_decode]
  · apply Std.TreeSet.distinct_toList.imp
    intro k k' h hk
    apply h
    rw [hk, Std.compare_eq_iff_eq]

end DependencyGraph

/-! ### What the reports of a session show -/

namespace Drawing

/-- An edge of a drawing leads from the node of one file to the node of another. -/
def Joins (d : Drawing) (files : List FileId) (a b : FileId) : Prop :=
  ∃ i j, (i, j) ∈ d.edges ∧ files[i]? = some a ∧ files[j]? = some b

/-- The nodes of a drawing are files, each drawn once, and so is each edge between them. -/
structure Shows (d : Drawing) (label : FileId → String) (files : List FileId) : Prop where
  labels : d.labels = files.map label
  nodup : files.Nodup
  nodup_edges : d.edges.Nodup
  ends : ∀ i j, (i, j) ∈ d.edges → i < files.length ∧ j < files.length

end Drawing

namespace Session

variable {s : Session} {root : Path} {D : FileId → FileId → Prop} {a b : FileId}

/-- Whatever report is made, it leaves the closed session. -/
theorem snd_depsLines (s : Session) (root : Path) (file : FileId) :
  (s.depsLines root file).2 = s.close
  := congrArg (fun graph => { s with graph }) (DependencyGraph.closed_closed s.graph)

/-- What a file depends on and what depends on it is read from the closed graph. -/
theorem fst_depsLines (s : Session) (root : Path) (file : FileId) :
  (s.depsLines root file).1
    = s.displayPath root file
      :: s.listLines root "depends on" (s.graph.closed.targets file)
      ++ s.listLines root "depended on by" (s.graph.closed.sources file)
  := by
  have h : s.graph.closed.closed.sources file = s.graph.closed.sources file := by
    rw [DependencyGraph.closed_closed]
  rw [← h]
  rfl

/-- The text of a report has a line for the file, and the two lists under their headings. -/
theorem depsReport_eq (s : Session) (root : Path) (file : FileId) :
  s.depsReport root file
    = (unlines (s.displayPath root file
        :: s.listLines root "depends on" (s.graph.closed.targets file)
        ++ s.listLines root "depended on by" (s.graph.closed.sources file)), s.close)
  := by
  rw [depsReport, ← fst_depsLines, ← snd_depsLines s root file]

theorem fst_draw (s : Session) (root : Path) :
  (s.draw root).1 = {
    labels := s.graph.closed.nodes.map (s.displayPath root)
    edges := s.graph.closed.edges.map fun l =>
      (s.graph.closed.nodes.idxOf l.1, s.graph.closed.nodes.idxOf l.2) }
  := rfl

/-- The number of a node is the place of its file. -/
theorem joins_draw :
  (s.draw root).1.Joins s.graph.closed.nodes a b ↔ (a, b) ∈ s.graph.closed.edges
  := by
  rw [fst_draw]
  constructor
  · rintro ⟨i, j, hij, hi, hj⟩
    obtain ⟨⟨x, y⟩, hxy, h⟩ := List.mem_map.mp hij
    obtain ⟨rfl, rfl⟩ := Prod.mk.inj h
    obtain ⟨hx, hy⟩ := DependencyGraph.ends_mem_nodes hxy
    rw [List.getElem?_idxOf hx, Option.some.injEq] at hi
    rw [List.getElem?_idxOf hy, Option.some.injEq] at hj
    rw [← hi, ← hj]
    apply hxy
  · intro h
    obtain ⟨ha, hb⟩ := DependencyGraph.ends_mem_nodes h
    use s.graph.closed.nodes.idxOf a, s.graph.closed.nodes.idxOf b, List.mem_map_of_mem h
    use List.getElem?_idxOf ha, List.getElem?_idxOf hb

/-- A drawing has one node for each file of the closed graph, with its path for a label, and one
arrow for each edge. -/
theorem shows_draw (s : Session) (root : Path) :
  (s.draw root).1.Shows (s.displayPath root) s.graph.closed.nodes
  where
  labels := rfl
  nodup := s.graph.closed.nodup_nodes
  nodup_edges := by
    apply List.Nodup.map_on _ s.graph.closed.nodup_edges
    rintro ⟨a, b⟩ hab ⟨x, y⟩ - h
    obtain ⟨hax, hby⟩ := Prod.mk.inj h
    obtain ⟨ha, hb⟩ := DependencyGraph.ends_mem_nodes hab
    rw [(List.idxOf_inj ha).mp hax, (List.idxOf_inj hb).mp hby]
  ends := by
    intro i j hij
    obtain ⟨⟨a, b⟩, hab, h⟩ := List.mem_map.mp hij
    obtain ⟨rfl, rfl⟩ := Prod.mk.inj h
    obtain ⟨ha, hb⟩ := DependencyGraph.ends_mem_nodes hab
    use List.idxOf_lt_length_of_mem ha, List.idxOf_lt_length_of_mem hb

end Session

/-! ### What the reports of a manifest show -/

/-- The reports of a session tell of the same pairs of files, those that the declarations of a
manifest lead to in suggest mode. -/
structure Session.ReportsAgree (s : Session) (man : Manifest) (root : Path)
    (files : List FileId) (dependencies clients : FileId → List FileId) : Prop where
  drawing : (s.draw root).1.Shows (s.displayPath root) files
  /-- The files that are drawn are those that take part in a pair. -/
  drawn : ∀ x, x ∈ files ↔ ∃ y, y ∈ dependencies x ∨ y ∈ clients x
  /-- The report of a file counts and lists what it depends on and what depends on it. -/
  text : ∀ x, (s.depsReport root x).1
    = unlines (s.displayPath root x
      :: ("depends on" ++ " (" ++ toString (dependencies x).length ++ "):")
      :: (dependencies x).map (fun y => "  " ++ s.displayPath root y)
      ++ ("depended on by" ++ " (" ++ toString (clients x).length ++ "):")
      :: (clients x).map fun y => "  " ++ s.displayPath root y)
  /-- These reports, and this drawing, are what the commands put out. -/
  report : ∀ p x, s.lookup root p = .ok x →
    Invocation.report root s (.deps p) = .ok (.text (s.depsReport root x).1)
  dot : Invocation.report root s .dot = .ok (.drawing (s.draw root).1)
  ascending : ∀ x, Ascending (dependencies x) ∧ Ascending (clients x)
  /-- A file depends on another if one or more declarations lead there, and on itself if it is
  declared to. -/
  agree : ∀ p q a b, s.interner.lookup p = some a → s.interner.lookup q = some b →
    [(s.draw root).1.Joins files a b,
      b ∈ dependencies a,
      a ∈ clients b,
      man.config.mode = .suggest
        ∧ (a ≠ b ∧ Relation.TransGen (man.Declares root) p q
          ∨ a = b ∧ man.Declares root p p)].TFAE
  batch : man.config.mode = .batch →
    (s.draw root).1 = ⟨[], []⟩ ∧ ∀ x, dependencies x = [] ∧ clients x = []
  /-- A drawing closes the graph, and shows the same once it is closed. -/
  draw_again : (s.draw root).2 = s.close ∧ (s.close.draw root).1 = (s.draw root).1
  /-- So does the report of a file. -/
  text_again : ∀ x, (s.depsReport root x).2 = s.close
    ∧ (s.close.depsReport root x).1 = (s.depsReport root x).1

namespace Manifest

variable {man : Manifest} {root p q : Path} {s : Session} {a b : FileId}

/-- The graph of the session of a manifest records the declared links, in suggest mode. -/
theorem records_buildSession (hs : man.buildSession root = .ok s) :
  s.graph.Records fun a b => man.config.mode = .suggest ∧ s.Linked (man.links root) a b
  := by
  obtain ⟨hfit, rfl⟩ := buildSession_eq_ok_iff.mp hs
  cases hmode : man.config.mode with
  | batch =>
      rw [graph_batch hmode]
      apply DependencyGraph.records_empty.congr
      simp
  | suggest =>
      apply (records_built hmode hfit).congr
      simp

/-- The dependencies that follow are those that the declarations lead to. -/
theorem dependsOn_iff_declared (hs : man.buildSession root = .ok s)
    (hp : s.interner.lookup p = some a) (hq : s.interner.lookup q = some b) :
  DependsOn (fun a b => man.config.mode = .suggest ∧ s.Linked (man.links root) a b) a b
    ↔ man.config.mode = .suggest
      ∧ (a ≠ b ∧ Relation.TransGen (man.Declares root) p q ∨ a = b ∧ man.Declares root p p)
  := by
  cases hmode : man.config.mode with
  | batch =>
      constructor
      · intro h
        obtain ⟨c, hc, -⟩ := Relation.TransGen.head'_iff.mp h.transGen
        cases hc.1
      · rintro ⟨h, -⟩
        cases h
  | suggest =>
      obtain ⟨ms, s', hs', -, h, -⟩ := buildSession_ok hmode (buildSession_eq_ok_iff.mp hs).1
      obtain rfl := Except.ok.inj (hs.symm.trans hs')
      simp only [true_and]
      rw [DependsOn, transGen_linked_iff h hp hq, linked_iff_declares h hp hp]

/-- The reports of the session of a manifest agree. -/
theorem buildSession_reports_agree (man : Manifest) (root : Path) (s : Session)
    (hs : man.buildSession root = .ok s) :
  ∃ files dependencies clients, s.ReportsAgree man root files dependencies clients
  := by
  have hg := records_buildSession hs
  have hclosed : s.close.graph.closed = s.graph.closed := s.graph.closed_closed
  use s.graph.closed.nodes, s.graph.closed.targets, s.graph.closed.sources
  exact {
    drawing := s.shows_draw root
    drawn := by
      intro x
      simp only [DependencyGraph.mem_nodes, DependencyGraph.mem_edges,
        DependencyGraph.mem_targets, DependencyGraph.mem_sources]
    text := by
      intro x
      rw [s.depsReport_eq]
      rfl
    report := by
      intro p x hp
      rw [Invocation.report, hp]
    dot := rfl
    ascending := by
      intro x
      use hg.close.targets_ascending x, hg.close.sources_ascending x
    agree := by
      -- All four say that the closed graph has this edge.
      intro p q a b hp hq
      apply List.tfae_of_forall (EdgeSet.Edge s.graph.closed.keys a b)
      simp only [List.forall_mem_cons]
      use Session.joins_draw.trans DependencyGraph.mem_edges
      use DependencyGraph.mem_targets, DependencyGraph.mem_sources
      rw [hg.edge_closed_iff, dependsOn_iff_declared hs hp hq]
      simp
    batch := by
      intro hmode
      obtain ⟨-, rfl⟩ := buildSession_eq_ok_iff.mp hs
      rw [Session.fst_draw, graph_batch hmode]
      use rfl
      intro x
      use rfl
      rfl
    draw_again := by
      use rfl
      rw [Session.fst_draw, Session.fst_draw, hclosed]
      rfl
    text_again := by
      intro x
      rw [s.depsReport_eq, s.close.depsReport_eq, hclosed]
      exact ⟨rfl, rfl⟩ }

theorem sharedInclude_reports_agree :
  ∃ s, sharedInclude.buildSession ⟨"/p"⟩ = .ok s
    ∧ ∃ files dependencies clients,
      s.ReportsAgree sharedInclude ⟨"/p"⟩ files dependencies clients
  := by
  have hfew : ((sharedInclude.files ⟨"/p"⟩).map Path.components).length ≤ 2 ^ 31 := by decide
  have hfit : Path.Fit (sharedInclude.files ⟨"/p"⟩) :=
    (Path.length_firsts_le fun p hp => hp).trans ((List.dedup_sublist _).length_le.trans hfew)
  have hs := buildSession_eq_ok_iff.mpr ⟨hfit, rfl⟩
  exact ⟨_, hs, buildSession_reports_agree sharedInclude ⟨"/p"⟩ _ hs⟩

end Manifest

end Recompile
