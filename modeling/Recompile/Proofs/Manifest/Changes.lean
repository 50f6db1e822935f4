import Recompile.Report.Text
import Recompile.Proofs.Manifest.Knowledge

/-!
# What a change touches

A change of a file touches the module it is, if it is one, and every module that leads to it by
the dependencies that the manifest declares. Which of the modules that include a file came to own
it makes no difference, as an owner depends on what it owns.
-/

namespace Recompile

open FileId (Ascending)

/-! ### Sessions whose owners depend on their files -/

/-- A file leads to another in any number of steps, none included. -/
theorem eq_or_dependsOn_iff {α : Type*} {R : α → α → Prop} {a b : α} :
  a = b ∨ DependsOn R a b ↔ a = b ∨ Relation.TransGen R a b
  := by
  by_cases h : a = b
  · simp [h]
  · rw [dependsOn_iff_of_ne h]

namespace Session

variable {s : Session} {D : FileId → FileId → Prop} {x file owner : FileId}

/-- A file without an owner is touched by what depends on it. -/
theorem touched_of_no_owner (hg : s.graph.Records D) :
  FileId.unknown.isKnown ∧ (x = .unknown ∨ DependsOn D x .unknown)
      ∨ file ≠ .unknown ∧ DependsOn D x file
    ↔ DependsOn D x file
  := by
  constructor
  · rintro (⟨h, -⟩ | ⟨-, h⟩)
    · cases h
    · apply h
  · intro h
    right
    constructor
    · rintro rfl
      cases (hg.close.isKnown (hg.edge_closed_iff.mpr h)).2
    · apply h

/-- What depends on the owner of a file depends on the file. -/
theorem touched_of_owner (howner : owner ≠ file) (hD : D owner file) (hx : x ≠ file) :
  owner.isKnown ∧ (x = owner ∨ DependsOn D x owner) ∨ file ≠ owner ∧ DependsOn D x file
    ↔ DependsOn D x file
  := by
  constructor
  · rintro (⟨-, rfl | h⟩ | ⟨-, h⟩)
    · apply DependsOn.of_step hD
    · apply (dependsOn_iff_of_ne hx).mpr
      apply h.transGen.tail hD
    · apply h
  · intro h
    right
    use howner.symm

/-- If owners are loaded and depend on what they own, a change touches the module that was
changed and all loaded modules that lead to the file. -/
theorem mem_invalidate_of_owners (hmode : s.suggests) (hs : s.registry.Placed)
    (hg : s.graph.Records D)
    (howners : ∀ file owner, s.ownership.owner file = some owner →
      s.registry.contains owner ∧ D owner file) :
  x ∈ (s.invalidate file).1
    ↔ s.registry.contains x ∧ (x = file ∨ Relation.TransGen D x file)
  := by
  rw [mem_invalidate hs, hg.closed_contains_iff, hg.closed_contains_iff, ← eq_or_dependsOn_iff]
  simp only [hmode, true_and]
  apply and_congr_right
  intro hx
  by_cases hfile : s.registry.contains file
  · rw [parent_of_contains hfile]
    simp [Registry.isKnown_of_contains hfile]
  · have hne {y : FileId} (hy : s.registry.contains y) : y ≠ file := by
      rintro rfl
      apply hfile hy
    rw [or_iff_right (hne hx), parent_of_not_contains hfile]
    cases howner : s.ownership.owner file with
    | none => apply touched_of_no_owner hg
    | some owner =>
        obtain ⟨hcontains, hD⟩ := howners file owner howner
        apply touched_of_owner (hne hcontains) hD (hne hx)

end Session

/-! ### The dependencies a manifest declares -/

namespace Manifest

/-- A module at the place of `p` imports or includes the place of `q`. -/
def Declares (man : Manifest) (root p q : Path) : Prop :=
  ∃ e ∈ man.modules, (root.join e.path).Same p ∧ ∃ d ∈ e.dependencies, (root.join d).Same q

variable {man : Manifest} {root p q : Path} {s : Session}
  {modules : List (Path × CompiledModule)} {a b : FileId}

/-- Files are linked as their paths are declared to depend on each other. -/
theorem linked_iff_declares (h : s.Knows (man.files root) modules (man.links root))
    (hp : s.interner.lookup p = some a) (hq : s.interner.lookup q = some b) :
  s.Linked (man.links root) a b ↔ man.Declares root p q
  := by
  constructor
  · rintro ⟨p', q', hl, hp', hq'⟩
    obtain ⟨e, he, rfl, d, hd, rfl⟩ := mem_links.mp hl
    use e, he, Interner.same_of_lookup h.size_le hp' hp
    use d, hd, Interner.same_of_lookup h.size_le hq' hq
  · rintro ⟨e, he, hep, d, hd, hdq⟩
    use root.join e.path, root.join d, mem_links.mpr ⟨e, he, rfl, d, hd, rfl⟩
    rw [Interner.lookup_congr hep, Interner.lookup_congr hdq]
    use hp, hq

theorem transGen_linked_iff (h : s.Knows (man.files root) modules (man.links root))
    (hp : s.interner.lookup p = some a) (hq : s.interner.lookup q = some b) :
  Relation.TransGen (s.Linked (man.links root)) a b
    ↔ Relation.TransGen (man.Declares root) p q
  := by
  constructor
  · intro hab
    induction hab generalizing q with
    | single hl =>
        apply Relation.TransGen.single
        apply (linked_iff_declares h hp hq).mp hl
    | tail _ hl ih =>
        have ⟨p', q', _, hp', _⟩ := hl
        apply (ih hp').tail
        apply (linked_iff_declares h hp' hq).mp hl
  · intro hpq
    induction hpq generalizing b with
    | single hd =>
        apply Relation.TransGen.single
        apply (linked_iff_declares h hp hq).mpr hd
    | tail _ hd ih =>
        have ⟨e, he, hep, _⟩ := hd
        obtain ⟨c, hc⟩ := h.lists.lookup_of_mem (mem_files_of_mem_modules he)
        rw [Interner.lookup_congr hep] at hc
        apply (ih hc).tail
        apply (linked_iff_declares h hc hq).mpr hd

/-- The loaded modules are those at the declared module paths. -/
theorem contains_iff_declared {ms : List CompiledModule} (hms : ms.length = man.modules.length)
    (h : s.Knows (man.files root)
      ((man.modules.zip ms).map fun em => (root.join em.1.path, em.2)) (man.links root)) :
  s.registry.contains a
    ↔ ∃ e ∈ man.modules, s.interner.lookup (root.join e.path) = some a
  := by
  have hzip : (man.modules.zip ms).map Prod.fst = man.modules :=
    List.map_fst_zip (Nat.le_of_eq hms.symm)
  rw [h.loaded]
  constructor
  · rintro ⟨p, m, hm, rfl⟩
    obtain ⟨em, hem, heq⟩ := List.mem_map.mp hm
    obtain ⟨rfl, rfl⟩ := Prod.mk.inj heq
    use em.1
    constructor
    · rw [← hzip]
      apply List.mem_map_of_mem hem
    · apply (h.numbered _ _ hm).2.1
  · rintro ⟨e, he, hlookup⟩
    rw [← hzip] at he
    obtain ⟨em, hem, rfl⟩ := List.mem_map.mp he
    have hm := List.mem_map_of_mem (f := fun em : ManifestEntry × CompiledModule =>
      (root.join em.1.path, em.2)) hem
    use root.join em.1.path, em.2, hm
    apply Option.some.inj
    rw [← hlookup]
    symm
    apply (h.numbered _ _ hm).2.1

/-- In the session of a manifest in suggest mode exactly the declared files are found, and a
change of one of them touches the module it is, if it is one, and every declared module that
leads to it by one or more declared dependencies. -/
theorem buildSession_invalidate_eq_declared (man : Manifest) (root : Path)
    (hmode : man.config.mode = .suggest)
    (hfew : ((man.files root).map Path.components).dedup.length < 2 ^ 31) :
  ∃ s, man.buildSession root = .ok s ∧ ∀ f,
    ((∃ cause, s.lookup root f = .error cause)
        ↔ ¬ ∃ p ∈ man.files root, p.Same (root.join f))
    ∧ ∀ id, s.lookup root f = .ok id →
        Ascending (s.invalidate id).1
        ∧ ∀ m, m ∈ (s.invalidate id).1
          ↔ ∃ e ∈ man.modules, s.lookup root e.path = .ok m
            ∧ ((root.join e.path).Same (root.join f)
              ∨ Relation.TransGen (man.Declares root) (root.join e.path) (root.join f))
  := by
  have hroom : (Path.firsts (man.files root)).length ≤ 2 ^ 31 := by
    apply Nat.le_trans (Path.length_firsts_le fun p hp => hp)
    apply Nat.le_of_lt hfew
  obtain ⟨ms, s, hs, hms, h, howned⟩ := buildSession_ok hmode hroom
  use s, hs
  intro f
  simp only [Session.lookup, Interner.fileId_eq_error_iff, Interner.fileId_eq_ok_iff]
  use h.lists.lookup_eq_none_iff
  intro id hid
  use Session.invalidate_ascending
  intro m
  rw [Session.mem_invalidate_of_owners h.suggests h.placed h.graph howned,
    contains_iff_declared hms h]
  have hreach {e : ManifestEntry} (he : s.interner.lookup (root.join e.path) = some m) :
      m = id ∨ Relation.TransGen (s.Linked (man.links root)) m id
        ↔ (root.join e.path).Same (root.join f)
          ∨ Relation.TransGen (man.Declares root) (root.join e.path) (root.join f) := by
    apply or_congr
    · constructor
      · rintro rfl
        apply Interner.same_of_lookup h.size_le he hid
      · intro hsame
        rw [Interner.lookup_congr hsame, hid] at he
        apply (Option.some.inj he).symm
    · apply transGen_linked_iff h he hid
  constructor
  · rintro ⟨⟨e, he, hm⟩, htouched⟩
    use e, he, hm, (hreach hm).mp htouched
  · rintro ⟨e, he, hm, htouched⟩
    use ⟨e, he, hm⟩, (hreach hm).mpr htouched

/-- Two modules that depend on each other, one of which shares an include with a third that
depends on itself. -/
def sharedInclude : Manifest where
  modules := [
    { path := ⟨"app"⟩, imports := [⟨"util"⟩] },
    { path := ⟨"util"⟩, imports := [⟨"./app"⟩], includes := [⟨"shared"⟩] },
    { path := ⟨"tool"⟩, imports := [⟨"tool"⟩], includes := [⟨"shared"⟩] }]

theorem sharedInclude_invalidate :
  sharedInclude.config.mode = .suggest
    ∧ ((sharedInclude.files ⟨"/p"⟩).map Path.components).dedup.length < 2 ^ 31
    ∧ ∃ s, sharedInclude.buildSession ⟨"/p"⟩ = .ok s ∧ ∀ f,
      ((∃ cause, s.lookup ⟨"/p"⟩ f = .error cause)
          ↔ ¬ ∃ p ∈ sharedInclude.files ⟨"/p"⟩, p.Same (Path.join ⟨"/p"⟩ f))
      ∧ ∀ id, s.lookup ⟨"/p"⟩ f = .ok id →
          Ascending (s.invalidate id).1
          ∧ ∀ m, m ∈ (s.invalidate id).1
            ↔ ∃ e ∈ sharedInclude.modules, s.lookup ⟨"/p"⟩ e.path = .ok m
              ∧ ((Path.join ⟨"/p"⟩ e.path).Same (Path.join ⟨"/p"⟩ f)
                ∨ Relation.TransGen (sharedInclude.Declares ⟨"/p"⟩)
                  (Path.join ⟨"/p"⟩ e.path) (Path.join ⟨"/p"⟩ f))
  := by
  have hfew : ((sharedInclude.files ⟨"/p"⟩).map Path.components).dedup.length < 2 ^ 31 := by
    apply Nat.lt_of_le_of_lt (List.dedup_sublist _).length_le
    decide
  use rfl, hfew
  apply buildSession_invalidate_eq_declared sharedInclude ⟨"/p"⟩ rfl hfew

end Manifest

end Recompile
