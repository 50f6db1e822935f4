import Recompile.Proofs.Below
import Recompile.Proofs.FileTable.History
import Recompile.Proofs.Lines
import Recompile.Proofs.Manifest.Agreement
import Recompile.Proofs.Manifest.Reports
import Recompile.Proofs.Quoting

/-!
# Names in reports

The paths of a manifest are read from the root and shown without it where they lie below it. No two
files are shown alike for that, so the nodes of a drawing have different labels. The lines of a
report are shown paths with something around them. Two files can share a line if a path looks like
what is written around another, or goes over several lines, and only then (`Session.NamesFiles`).
-/

namespace Recompile

open Report (Alike Entry Share linesOf_textOf textOf)

namespace Session

variable {s : Session} {root p : Path} {a b x : FileId} {t u : String}

/-! ### The entries of reports -/

/-- The line for a changed file. -/
def changedLine (s : Session) (root : Path) (id : FileId) : String :=
  s.displayPath root id ++ " changed"

/-- The line for a module that a change made dirty. -/
def dirtyLine (s : Session) (root : Path) (id : FileId) : String :=
  "  dirty: " ++ s.displayPath root id

/-- The line for a file in a list of dependencies or clients. -/
def listedLine (s : Session) (root : Path) (id : FileId) : String :=
  "  " ++ s.displayPath root id

/-- The entries for one change. -/
def changeEntries (s : Session) (root : Path) (c : Change) : List Entry :=
  ⟨some c.file, s.changedLine root c.file⟩ :: c.dirty.map fun x => ⟨some x, s.dirtyLine root x⟩

/-- The entries of the report of a series of changes. -/
def dirtyEntries (s : Session) (root : Path) (changes : List Change) : List Entry :=
  changes.flatMap (s.changeEntries root)
    ++ [⟨none, toString (changes.flatMap (·.dirty)).dedup.length ++ " modules need recompiling"⟩]

/-- The entries for a list of files under a heading that counts them. -/
def listEntries (s : Session) (root : Path) (heading : String) (ids : List FileId) : List Entry :=
  ⟨none, heading ++ " (" ++ toString ids.length ++ "):"⟩
    :: ids.map fun x => ⟨some x, s.listedLine root x⟩

/-- The entries of the report of what a file depends on and what depends on it. -/
def depsEntries (s : Session) (root : Path) (file : FileId) : List Entry :=
  ⟨some file, s.displayPath root file⟩
    :: s.listEntries root "depends on" (s.dependenciesOf file).1
    ++ s.listEntries root "depended on by" (s.dependentsOf file).1

/-- The entries of a change are its lines. -/
theorem map_text_changeEntries (s : Session) (root : Path) (c : Change) :
  (s.changeEntries root c).map Entry.text = s.changeLines root c
  := by
  rw [changeEntries, List.map_cons, List.map_map]
  rfl

/-- The entries of a list are its lines. -/
theorem map_text_listEntries (s : Session) (root : Path) (heading : String) (ids : List FileId) :
  (s.listEntries root heading ids).map Entry.text = s.listLines root heading ids
  := by
  rw [listEntries, List.map_cons, List.map_map]
  rfl

/-- The text of a report of changes is that of its entries. -/
theorem textOf_dirtyEntries (s : Session) (root : Path) (changes : List Change) :
  textOf (s.dirtyEntries root changes)
    = unlines (changes.flatMap (s.changeLines root)
      ++ [toString (changes.flatMap (·.dirty)).dedup.length ++ " modules need recompiling"])
  := by
  rw [textOf, dirtyEntries, List.map_append, List.map_flatMap]
  simp only [map_text_changeEntries]
  rfl

/-- The text of a report of a file is that of its entries. -/
theorem textOf_depsEntries (s : Session) (root : Path) (file : FileId) :
  textOf (s.depsEntries root file) = (s.depsReport root file).1
  := by
  rw [textOf, depsEntries, List.map_append, List.map_cons, map_text_listEntries,
    map_text_listEntries, depsReport_eq]
  rfl

/-! ### Files that look different -/

/-- The table of files has a path for the number. -/
def Numbered (s : Session) (id : FileId) : Prop := ∃ p, s.interner.path id = some p

/-- Different files with paths are written differently. -/
def TellsApart (s : Session) (write : FileId → String) : Prop :=
  ∀ a b, s.Numbered a → s.Numbered b → write a = write b → a = b

/-- What is shown for a file is a single line. -/
def OnOneLine (s : Session) (root : Path) (id : FileId) : Prop :=
  '\n' ∉ (s.displayPath root id).toList

/-- The line for `a` as a changed file is the line for `b` as a dirty module. -/
def LooksDirty (s : Session) (root : Path) (changes : List Change) (a b : FileId) : Prop :=
  a ∈ changes.map (·.file) ∧ b ∈ changes.flatMap (·.dirty)
    ∧ ∃ w, s.displayPath root a = "  dirty:" ++ w ∧ " " ++ s.displayPath root b = w ++ " changed"

/-- The line for `a`, which the report is about, is the line for `b` in a list. -/
def LooksListed (s : Session) (root : Path) (file a b : FileId) : Prop :=
  a = file ∧ (b ∈ (s.dependenciesOf file).1 ∨ b ∈ (s.dependentsOf file).1)
    ∧ s.displayPath root a = "  " ++ s.displayPath root b

/-- A command prints entries. Two files have entries that look alike exactly if one of them `looks`
like the other. If both are shown on a single line, that is also when they share a line. -/
structure PrintsAs (s : Session) (root : Path) (c : Command) (entries : List Entry)
    (looks : FileId → FileId → Prop) : Prop where
  report : Invocation.report root s c = .ok (.text (textOf entries))
  /-- The lines of what is printed are those of the entries, each with a line feed at its end. -/
  lines : linesOf (textOf entries) = (Report.lines entries).map Prod.snd ++ [[]]
  alike_iff : ∀ a b, a ≠ b → (Alike entries a b ↔ looks a b ∨ looks b a)
  share_iff : ∀ a b, a ≠ b → s.OnOneLine root a → s.OnOneLine root b →
    (Share entries a b ↔ Alike entries a b)

/-- Reports and drawings of a session name files as unambiguously as their form allows. Labels may
be written in quotes of any kind that keeps different texts apart. -/
structure NamesFiles (s : Session) (root : Path) (quote : String → String) : Prop where
  /-- Different files are shown differently. -/
  shown : s.TellsApart (s.displayPath root)
  /-- The drawing has one node for each end of a dependency, and no two have the same label. -/
  drawing : ∃ (d : Drawing) (nodes : List FileId),
    Invocation.report root s .dot = .ok (.drawing d)
      ∧ nodes.Nodup
      ∧ (∀ x, x ∈ nodes ↔ ∃ y, (x, y) ∈ s.graph.closed.edges ∨ (y, x) ∈ s.graph.closed.edges)
      ∧ (∀ x ∈ nodes, s.Numbered x)
      ∧ d.labels = nodes.map (s.displayPath root)
      ∧ d.labels.Nodup ∧ (d.labels.map quote).Nodup
  /-- In the report of a series of changes a file that has changed can look like a dirty module. -/
  dirty : ∀ (files : List Path) (number : Path → FileId),
    (∀ f ∈ files, s.lookup root f = .ok (number f)) →
    let changes : List Change := files.map fun f => ⟨number f, (s.invalidate (number f)).1⟩
    s.PrintsAs root (.dirty files) (s.dirtyEntries root changes) (s.LooksDirty root changes)
  /-- In the report of a file this file can look like one that is listed. -/
  deps : ∀ f file, s.lookup root f = .ok file →
    s.PrintsAs root (.deps f) (s.depsEntries root file) (s.LooksListed root file)

/-- A file is shown by the path that the table has for it. -/
theorem displayPath_of_path (h : s.interner.path a = some p) :
  s.displayPath root a = (root.shownFrom p).text
  := by
  rw [displayPath, h]
  rfl

/-! ### Lines that look alike -/

/-- A path looks like a line for a dirty module if it starts like one and goes on like the path of
the module, behind a blank, up to the ` changed` that follows it. -/
theorem append_changed_eq_iff :
  t ++ " changed" = "  dirty: " ++ u ↔ ∃ w, t = "  dirty:" ++ w ∧ " " ++ u = w ++ " changed"
  := by
  have hblank : "  dirty: " ++ u = "  dirty:" ++ (" " ++ u) := by
    rw [← String.append_assoc]
    rfl
  rw [hblank]
  constructor
  · intro h
    have hchars := congrArg String.toList h
    rw [String.toList_append, String.toList_append] at hchars
    rcases List.append_eq_append_iff.mp hchars with ⟨rest, hstart, hend⟩ | ⟨w, hstart, hend⟩
    · -- The colon does not come again in ` changed`, so nothing is left of `  dirty:`.
      rcases List.eq_nil_or_concat rest with rfl | ⟨rest', c, rfl⟩
      · rw [List.append_nil] at hstart
        rw [List.nil_append] at hend
        use ""
        use String.toList_inj.mp (by simp [← hstart]), String.toList_inj.mp (by simp [hend])
      · have hlast := congrArg List.getLast? hstart
        rw [List.concat_eq_append, ← List.append_assoc, List.getLast?_concat] at hlast
        obtain rfl : ':' = c := Option.some.inj hlast
        have hmem : ':' ∈ " changed".toList := by simp [hend]
        exact absurd hmem (by decide)
    · use String.ofList w
      use String.toList_inj.mp (by simp [hstart]), String.toList_inj.mp (by simp [hend])
  · rintro ⟨w, rfl, hw⟩
    rw [hw, String.append_assoc]

/-- The lines for a file in a report of changes have no line feeds if its path has none. -/
theorem OnOneLine.changes (h : s.OnOneLine root a) :
  '\n' ∉ (s.changedLine root a).toList ∧ '\n' ∉ (s.dirtyLine root a).toList
  := by
  rw [OnOneLine] at h
  simp [changedLine, dirtyLine, h]

/-- Nor does the line for a file in a list. -/
theorem OnOneLine.listed (h : s.OnOneLine root a) :
  '\n' ∉ (s.listedLine root a).toList
  := by
  rw [OnOneLine] at h
  simp [listedLine, h]

/-- In a report of changes a file has an entry as a changed file, as a dirty module, or both. -/
theorem ofTwoKinds_dirtyEntries (hshown : s.TellsApart (s.displayPath root))
    {changes : List Change}
    (hnumbered : ∀ c ∈ changes, s.Numbered c.file ∧ ∀ x ∈ c.dirty, s.Numbered x) :
  Report.OfTwoKinds (s.dirtyEntries root changes) (s.changedLine root) (s.dirtyLine root)
    (changes.map (·.file)) (changes.flatMap (·.dirty))
  where
  mem_iff x t := by
    simp only [dirtyEntries, changeEntries, List.mem_append, List.mem_flatMap, List.mem_cons,
      List.mem_map, List.not_mem_nil, Entry.mk.injEq, Option.some.injEq, reduceCtorEq, false_and,
      or_false]
    constructor
    · rintro ⟨c, hc, ⟨rfl, rfl⟩ | ⟨x, hx, rfl, rfl⟩⟩
      · left
        use ⟨c, hc, rfl⟩
      · right
        use ⟨c, hc, hx⟩
    · rintro (⟨⟨c, hc, rfl⟩, rfl⟩ | ⟨⟨c, hc, hx⟩, rfl⟩)
      · exact ⟨c, hc, .inl ⟨rfl, rfl⟩⟩
      · exact ⟨c, hc, .inr ⟨x, hx, rfl, rfl⟩⟩
  first_inj a ha b hb hab := by
    obtain ⟨c, hc, rfl⟩ := List.mem_map.mp ha
    obtain ⟨d, hd, rfl⟩ := List.mem_map.mp hb
    apply hshown _ _ (hnumbered c hc).1 (hnumbered d hd).1
    apply (String.append_left_inj _).mp hab
  second_inj a ha b hb hab := by
    obtain ⟨c, hc, ha⟩ := List.mem_flatMap.mp ha
    obtain ⟨d, hd, hb⟩ := List.mem_flatMap.mp hb
    apply hshown _ _ ((hnumbered c hc).2 a ha) ((hnumbered d hd).2 b hb)
    apply (String.append_right_inj _).mp hab

/-- In the report of a file there is an entry for this file, and one for each that is listed. -/
theorem ofTwoKinds_depsEntries (hshown : s.TellsApart (s.displayPath root)) {file : FileId}
    (hnumbered : ∀ x, x ∈ (s.dependenciesOf file).1 ∨ x ∈ (s.dependentsOf file).1 →
      s.Numbered x) :
  Report.OfTwoKinds (s.depsEntries root file) (s.displayPath root) (s.listedLine root)
    [file] ((s.dependenciesOf file).1 ++ (s.dependentsOf file).1)
  where
  mem_iff x t := by
    simp only [depsEntries, listEntries, List.mem_append, List.mem_cons, List.mem_map,
      List.not_mem_nil, Entry.mk.injEq, Option.some.injEq, reduceCtorEq, false_and, or_false,
      false_or]
    constructor
    · rintro ((⟨rfl, rfl⟩ | ⟨x, hx, rfl, rfl⟩) | ⟨x, hx, rfl, rfl⟩)
      · left
        use rfl
      · right
        use .inl hx
      · right
        use .inr hx
    · rintro (⟨rfl, rfl⟩ | ⟨hx | hx, rfl⟩)
      · exact .inl (.inl ⟨rfl, rfl⟩)
      · exact .inl (.inr ⟨x, hx, rfl, rfl⟩)
      · exact .inr ⟨x, hx, rfl, rfl⟩
  first_inj a ha b hb _ := by
    rw [List.mem_singleton.mp ha, List.mem_singleton.mp hb]
  second_inj a ha b hb hab := by
    apply hshown _ _ (hnumbered a (List.mem_append.mp ha)) (hnumbered b (List.mem_append.mp hb))
    apply (String.append_right_inj _).mp hab

/-- A report with entries of two kinds prints one file like another if the entry of the first kind
for the one is that of the second kind for the other. -/
theorem PrintsAs.of_twoKinds {c : Command} {entries : List Entry} {first second : FileId → String}
    {xs ys : List FileId} {looks : FileId → FileId → Prop}
    (hreport : Invocation.report root s c = .ok (.text (textOf entries)))
    (hkinds : Report.OfTwoKinds entries first second xs ys)
    (hlooks : ∀ a b, a ∈ xs ∧ b ∈ ys ∧ first a = second b ↔ looks a b)
    (hline : ∀ x, s.OnOneLine root x → '\n' ∉ (first x).toList ∧ '\n' ∉ (second x).toList) :
  s.PrintsAs root c entries looks
  where
  report := hreport
  lines := linesOf_textOf entries
  alike_iff a b hab := by rw [hkinds.alike_iff hab, hlooks, hlooks]
  share_iff a b _ ha hb := by
    apply hkinds.share_iff_alike
    rintro x (rfl | rfl)
    · apply hline x ha
    · apply hline x hb

/-! ### Files with paths -/

/-- The files that a session tells of have paths: those that are looked up, the modules, and the
ends of dependencies. -/
structure TellsOfPaths (s : Session) : Prop where
  found : ∀ p id, s.interner.lookup p = some id → s.Numbered id
  modules : ∀ id, s.registry.contains id → s.Numbered id
  ends : ∀ a b, EdgeSet.Edge s.graph.closed.keys a b → s.Numbered a ∧ s.Numbered b

/-- All files in the report of a series of changes have paths. -/
theorem TellsOfPaths.change (h : s.TellsOfPaths) (hplaced : s.registry.Placed)
    (hfile : s.Numbered a) :
  s.Numbered a ∧ ∀ x ∈ (s.invalidate a).1, s.Numbered x
  := by
  use hfile
  intro x hx
  apply h.modules x ((marks_invalidate hplaced a).loaded x hx)

/-- All files in the lists of a report have paths. -/
theorem TellsOfPaths.listed (h : s.TellsOfPaths) (file : FileId)
    (hx : x ∈ (s.dependenciesOf file).1 ∨ x ∈ (s.dependentsOf file).1) :
  s.Numbered x
  := by
  rcases hx with hx | hx
  · apply (h.ends file x (DependencyGraph.mem_targets.mp hx)).2
  · apply (h.ends x file (DependencyGraph.mem_sources.mp hx)).1

/-- All nodes of a drawing have paths. -/
theorem TellsOfPaths.node (h : s.TellsOfPaths) (hx : x ∈ s.graph.closed.nodes) :
  s.Numbered x
  := by
  obtain ⟨y, hxy | hyx⟩ := DependencyGraph.mem_nodes.mp hx
  · apply (h.ends x y (DependencyGraph.mem_edges.mp hxy)).1
  · apply (h.ends y x (DependencyGraph.mem_edges.mp hyx)).2

/-- If files with paths look different and a session without dirty modules tells of no others, its
reports and drawings name files as unambiguously as they can. -/
theorem TellsOfPaths.namesFiles (h : s.TellsOfPaths) (hclean : s.Clean)
    (hshown : s.TellsApart (s.displayPath root)) {quote : String → String}
    (hquote : Function.Injective quote) :
  s.NamesFiles root quote
  where
  shown := hshown
  drawing := by
    have hlabels : (s.graph.closed.nodes.map (s.displayPath root)).Nodup := by
      apply List.Nodup.map_on _ s.graph.closed.nodup_nodes
      intro x hx y hy
      apply hshown x y (h.node hx) (h.node hy)
    use (s.draw root).1, s.graph.closed.nodes, rfl, s.graph.closed.nodup_nodes
    use fun x => DependencyGraph.mem_nodes, fun x => h.node, rfl, hlabels
    apply hlabels.map hquote
  dirty := by
    intro files number hfiles changes
    have hnumbered : ∀ c ∈ changes, s.Numbered c.file ∧ ∀ x ∈ c.dirty, s.Numbered x := by
      intro c hc
      obtain ⟨f, hf, rfl⟩ := List.mem_map.mp hc
      apply h.change hclean.placed
      apply h.found _ _ (Interner.fileId_eq_ok_iff.mp (hfiles f hf))
    apply PrintsAs.of_twoKinds _ (ofTwoKinds_dirtyEntries hshown hnumbered)
    · intro a b
      rw [changedLine, dirtyLine, append_changed_eq_iff, LooksDirty]
    · intro x hx
      apply hx.changes
    · rw [report_dirty_eq hclean hfiles, textOf_dirtyEntries]
  deps := by
    intro f file hf
    apply PrintsAs.of_twoKinds _ (ofTwoKinds_depsEntries hshown fun x => h.listed file)
    · intro a b
      rw [List.mem_singleton, List.mem_append, listedLine, LooksListed]
    · intro x hx
      use hx, hx.listed
    · rw [Invocation.report, hf, textOf_depsEntries]

end Session

/-! ### The session of a manifest -/

namespace Manifest

variable {man : Manifest} {root : Path} {s : Session}

/-- The session of a manifest tells of files with paths. -/
theorem tellsOfPaths_buildSession (hs : man.buildSession root = .ok s) :
  s.TellsOfPaths
  := by
  have hg := records_buildSession hs
  obtain ⟨hfit, rfl⟩ := buildSession_eq_ok_iff.mp hs
  have found (p : Path) (id : FileId) (hid : (man.built root).interner.lookup p = some id) :
      (man.built root).Numbered id := by
    rw [interner_built] at hid
    obtain ⟨q, hq, -⟩ := (Interner.lookup_listing_iff hfit).mp hid
    use q
    rw [interner_built]
    apply hq
  have ends {a b : FileId}
      (h : man.config.mode = .suggest ∧ (man.built root).Linked (man.links root) a b) :
      (man.built root).Numbered a ∧ (man.built root).Numbered b := by
    obtain ⟨-, p, q, -, hp, hq⟩ := h
    exact ⟨found p a hp, found q b hq⟩
  exact {
    found := found
    modules := by
      intro id hid
      obtain ⟨e, -, hlookup⟩ := (mirrors_built hfit).contains_iff.mp hid
      apply found _ id hlookup
    ends := by
      intro a b hab
      have h := (hg.edge_closed_iff.mp hab).transGen
      obtain ⟨c, hac, -⟩ := Relation.TransGen.head'_iff.mp h
      obtain ⟨d, -, hdb⟩ := Relation.TransGen.tail'_iff.mp h
      exact ⟨(ends hac).1, (ends hdb).2⟩ }

/-- Different files of a manifest look different. -/
theorem tellsApart_displayPath (hs : man.buildSession root = .ok s) :
  s.TellsApart (s.displayPath root)
  := by
  obtain ⟨hfit, rfl⟩ := buildSession_eq_ok_iff.mp hs
  have joined {id : FileId} {p : Path} (hp : (man.built root).interner.path id = some p) :
      ∃ d, p = root.join d := by
    rw [interner_built, table, Interner.path_eq_some_iff] at hp
    have hmem : p ∈ man.files root := by
      apply Path.mem_of_mem_firsts
      apply List.mem_toArray.mp (Array.mem_of_getElem? hp.2)
    apply exists_join_of_mem_files hmem
  rintro a b ⟨p, hp⟩ ⟨q, hq⟩ h
  obtain ⟨d, rfl⟩ := joined hp
  obtain ⟨d', rfl⟩ := joined hq
  rw [Session.displayPath_of_path hp, Session.displayPath_of_path hq] at h
  have hsame := Path.same_of_shown_join (congrArg Path.mk h)
  rw [interner_built] at hp hq
  have ha := (Interner.lookup_listing_iff hfit).mpr ⟨_, hp, Path.Same.refl _⟩
  have hb := (Interner.lookup_listing_iff hfit).mpr ⟨_, hq, Path.Same.refl _⟩
  rw [Interner.lookup_congr hsame, hb] at ha
  apply (Option.some.inj ha).symm

/-- Whatever the root is and however paths are spelled, the session of a manifest shows different
files differently, and labels its nodes differently, in whatever quotes. What a report prints for
two of them is the same exactly if the path of one looks like the line for the other. Unless one of
the two paths has a line feed in it, that is also when they share a line of the report. -/
theorem buildSession_names_files (man : Manifest) (root : Path) (s : Session)
    (quote : String → String) (hquote : Function.Injective quote)
    (hs : man.buildSession root = .ok s) :
  s.NamesFiles root quote
  := by
  apply (tellsOfPaths_buildSession hs).namesFiles _ (tellsApart_displayPath hs) hquote
  apply Session.keptByBuilding_clean.buildSession (Session.clean_new _) hs

/-- A module with files above the root, at the root itself, below it twice over, and elsewhere. -/
def scattered : Manifest where
  modules := [
    { path := ⟨"a"⟩, imports := [⟨"/p/a"⟩, ⟨"../p/a"⟩, ⟨"p//a"⟩], includes := [⟨""⟩, ⟨"/"⟩] }]

theorem scattered_names_files :
  Function.Injective Drawing.nodeAttributes
    ∧ ∃ s, scattered.buildSession ⟨"p"⟩ = .ok s ∧ s.NamesFiles ⟨"p"⟩ Drawing.nodeAttributes
  := by
  have hquote : Function.Injective Drawing.nodeAttributes := fun _ _ => Drawing.nodeAttributes_inj
  have hfew : ((scattered.files ⟨"p"⟩).map Path.components).length ≤ 2 ^ 31 := by decide
  have hfit : Path.Fit (scattered.files ⟨"p"⟩) :=
    (Path.length_firsts_le fun p hp => hp).trans ((List.dedup_sublist _).length_le.trans hfew)
  have hs := buildSession_eq_ok_iff.mpr ⟨hfit, rfl⟩
  exact ⟨hquote, _, hs, buildSession_names_files scattered ⟨"p"⟩ _ _ hquote hs⟩

/-- Files whose paths look like lines for other files, one of them over two lines. -/
def lookalikes : Manifest where
  modules := [
    { path := ⟨"  b"⟩, imports := [⟨"b"⟩, ⟨"x\n  b"⟩] },
    { path := ⟨"foo changed"⟩, imports := [⟨"  dirty: foo"⟩] }]

/-- The path of a file can look like the line for another, and can bring a line of its own that is
the line for another. -/
theorem lookalikes_share_lines :
  let root : Path := ⟨"/p"⟩
  ∃ s, lookalikes.buildSession root = .ok s
    ∧ (let entries := s.depsEntries root ⟨0⟩
      (s.depsReport root ⟨0⟩).1 = "  b\ndepends on (2):\n  b\n  x\n  b\ndepended on by (0):\n"
        ∧ textOf entries = (s.depsReport root ⟨0⟩).1
        ∧ Share entries ⟨0⟩ ⟨2⟩ ∧ Share entries ⟨2⟩ ⟨3⟩)
    ∧ let changes : List Session.Change := [⟨⟨4⟩, (s.invalidate ⟨4⟩).1⟩]
      (s.invalidate ⟨4⟩).2.dirtyReport root changes
          = "  dirty: foo changed\n  dirty: foo changed\n1 modules need recompiling\n"
        ∧ textOf (s.dirtyEntries root changes) = (s.invalidate ⟨4⟩).2.dirtyReport root changes
        ∧ Share (s.dirtyEntries root changes) ⟨4⟩ ⟨1⟩
  := by
  have hfew : ((lookalikes.files ⟨"/p"⟩).map Path.components).length ≤ 2 ^ 31 := by decide
  have hfit : Path.Fit (lookalikes.files ⟨"/p"⟩) :=
    (Path.length_firsts_le fun p hp => hp).trans ((List.dedup_sublist _).length_le.trans hfew)
  intro root
  use lookalikes.built root, buildSession_eq_ok_iff.mpr ⟨hfit, rfl⟩
  constructor
  · use by decide +kernel, Session.textOf_depsEntries _ _ _
    constructor
    · use "  b".toList
      decide +kernel
    · use "  b".toList
      decide +kernel
  · use by decide +kernel, by decide +kernel, "  dirty: foo changed".toList
    decide +kernel

end Manifest

end Recompile
