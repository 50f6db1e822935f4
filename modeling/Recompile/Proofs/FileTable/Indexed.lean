import Std.Data.HashMap.Lemmas
import Recompile.Proofs.FileTable.History

/-!
# The table of files with an index

A table of files can also be kept as two tables: an index, in which the number of a path is found
by the steps of the path, and the spellings in the order of the numbers (`Interner.Indexed`). A new
path is written to both. The index then finds what a search of the spellings would find, so the
two tables are inverse to each other, and whatever is asked is answered as without the index.
-/

namespace Recompile

deriving instance Hashable for Component

open Recompile.Path (Fit)

namespace Interner

/-- The numbers by the steps of the paths, and the spellings by the numbers. -/
structure Indexed where
  ids : Std.HashMap (List Component) FileId := ∅
  paths : Array Path := #[]

namespace Indexed

variable {t : Indexed} {p : Path}

/-- Both tables are empty. -/
def empty : Indexed := {}

/-- The table of the spellings, without the index. -/
def table (t : Indexed) : Interner := ⟨t.paths⟩

/-- The number of a path in the index, if it has one. -/
def lookup (t : Indexed) (p : Path) : Option FileId := t.ids[p.components]?

/-- Both tables with a new path. -/
def withPath (t : Indexed) (p : Path) : Indexed :=
  ⟨t.ids.insert p.components (FileId.ofIndex t.paths.size), t.paths.push p⟩

/-- The number of a path; a new path gets the next free one and is written to both tables. -/
def intern (t : Indexed) (p : Path) : Except Fault (FileId × Indexed) :=
  match t.lookup p with
  | some id => .ok (id, t)
  | none =>
    if FileId.max.val.toNatClampNeg < t.paths.size then .error (.fileLimit p)
    else .ok (FileId.ofIndex t.paths.size, t.withPath p)

/-- One step of a table with an index. Only numbers are found in the index; everything else is
read from the spellings. -/
def step (t : Indexed) : Step → Indexed × Answer
  | .intern p =>
    match t.intern p with
    | .ok (id, t') => (t', .file (some id))
    | .error cause => (t, .fault cause)
  | .lookup p => (t, .file (t.lookup p))
  | .path id => (t, .path (t.table.path id))
  | .size => (t, .count t.table.size)
  | .isEmpty => (t, .flag t.table.isEmpty)
  | .toList => (t, .files t.table.toList)

/-- The steps of a history, from empty tables. -/
def run (steps : List Step) : Indexed × List Answer := runSteps step empty steps

/-! ### Tables that agree -/

/-- The index finds what a search of the spellings finds. -/
def Agrees (t : Indexed) : Prop := ∀ p, t.lookup p = t.table.lookup p

theorem agrees_empty :
  empty.Agrees
  := by
  intro p
  simp [lookup, Interner.lookup, table, empty]

/-- The index finds a new path, and what it found before. -/
theorem lookup_withPath (t : Indexed) (p q : Path) :
  (t.withPath p).lookup q
    = if p.Same q then some (FileId.ofIndex t.paths.size) else t.lookup q
  := by
  rw [lookup, withPath, Std.HashMap.getElem?_insert]
  simp only [beq_iff_eq]
  rfl

/-- A path that the index does not find can be written to both tables. -/
theorem Agrees.withPath (h : t.Agrees) (hp : t.lookup p = none) :
  (t.withPath p).Agrees
  := by
  intro q
  have hpush : (t.withPath p).table.lookup q
      = (t.table.lookup q).or (if p.Same q then some (FileId.ofIndex t.paths.size) else none) :=
    lookup_push (t := t.table)
  rw [hpush, lookup_withPath, ← h q]
  split_ifs with hpq
  · have hq : t.lookup q = none := by
      rw [h, ← lookup_congr hpq, ← h, hp]
    rw [hq, Option.none_or]
  · rw [Option.or_none]

/-- A path is numbered with the index as without it, and the tables still agree. -/
theorem Agrees.intern (h : t.Agrees) (p : Path) :
  (t.intern p).map (fun r => (r.1, r.2.table)) = t.table.intern p
    ∧ ∀ id t', t.intern p = .ok (id, t') → t'.Agrees
  := by
  rw [Indexed.intern, Interner.intern, ← h p]
  cases hp : t.lookup p with
  | some id =>
      use rfl
      rintro _ _ ⟨⟩
      apply h
  | none =>
      have hsize : t.table.paths.size = t.paths.size := rfl
      simp only [hsize]
      split_ifs
      · use rfl
        rintro _ _ ⟨⟩
      · use rfl
        rintro _ _ ⟨⟩
        apply h.withPath hp

/-- A step does the same with the index as without it. -/
theorem Agrees.step (h : t.Agrees) (i : Step) :
  (t.step i).2 = (t.table.step i).2 ∧ (t.step i).1.table = (t.table.step i).1
    ∧ (t.step i).1.Agrees
  := by
  cases i with
  | intern p =>
      obtain ⟨hsame, hnext⟩ := h.intern p
      rw [Indexed.step, Interner.step, ← hsame]
      cases hintern : t.intern p with
      | ok r => exact ⟨rfl, rfl, hnext r.1 r.2 hintern⟩
      | error cause => exact ⟨rfl, rfl, h⟩
  | lookup p => exact ⟨congrArg Answer.file (h p), rfl, h⟩
  | path | size | isEmpty | toList => exact ⟨rfl, rfl, h⟩

/-- A history does the same with the index as without it. -/
theorem Agrees.runSteps (h : t.Agrees) (steps : List Step) :
  (runSteps Indexed.step t steps).2 = (runSteps Interner.step t.table steps).2
    ∧ (runSteps Indexed.step t steps).1.table = (runSteps Interner.step t.table steps).1
    ∧ (runSteps Indexed.step t steps).1.Agrees
  := by
  induction steps generalizing t with
  | nil => exact ⟨rfl, rfl, h⟩
  | cons i steps ih =>
      obtain ⟨hanswer, htable, hnext⟩ := h.step i
      obtain ⟨hanswers, hend, hagrees⟩ := ih hnext
      rw [htable] at hanswers hend
      rw [runSteps_cons, runSteps_cons, hanswer, hanswers]
      exact ⟨rfl, hend, hagrees⟩

end Indexed

/-! ### Histories -/

/-- Every table that can come about is the table of some paths. -/
theorem exists_listing_run (steps : List Step) :
  ∃ ps, Fit ps ∧ (run steps).1 = listing ps
  := by
  apply runSteps_induction (P := fun t => ∃ ps, Fit ps ∧ t = listing ps)
  · rintro t i ⟨ps, hfit, rfl⟩
    cases i with
    | intern p =>
        rw [step, intern_listing hfit]
        split_ifs with hroom
        · use ps ++ [p], hroom
        · use ps, hfit
    | lookup | path | size | isEmpty | toList =>
        use ps, hfit
        rfl
  · use [], by decide
    rfl

/-- Whatever is asked of a table of files with an index, it is answered as without the index. The
two tables are inverse to each other: the index has a number for the place of a path exactly if
the spelling kept for the number leads to this place. -/
theorem indexed_run_eq (steps : List Step) :
  let t := (Indexed.run steps).1
  (Indexed.run steps).2 = (run steps).2
    ∧ t.paths = (run steps).1.paths
    ∧ ∀ p id, t.ids[p.components]? = some id ↔ ∃ q, t.table.path id = some q ∧ q.Same p
  := by
  intro t
  obtain ⟨hanswers, htable, hagrees⟩ := Indexed.agrees_empty.runSteps steps
  obtain ⟨ps, hfit, hlisting⟩ := exists_listing_run steps
  have ht : t.table = listing ps := htable.trans hlisting
  use hanswers, congrArg Interner.paths htable
  intro p id
  have hp : t.ids[p.components]? = t.table.lookup p := hagrees p
  rw [hp, ht]
  apply lookup_listing_iff hfit

end Interner

end Recompile
