import Recompile.Proofs.NamedStores

/-!
# Named stores written in place

A counter or a table can also be written through its entry, which is made before the write is
checked (`Cache.writeInPlace`). A write that is refused leaves the entry where it is. It leaves no
trace for all that: a new counter is far enough from both ends of its range for every increment, and
a new table has no key, so only an entry that was there before can refuse a write. Written in place,
a cache answers all that it is asked as it does otherwise (`Cache.Alike`).
-/

namespace Recompile

namespace Cache

variable {α : Type} {c c' : Cache α} {name : String}

/-! ### Entries -/

/-- The cache with an entry for a counter, at zero if it had none. -/
def openCounter (c : Cache α) (name : String) : Cache α :=
  if c.counters.contains name then c else c.withCounter name 0

/-- The cache with an entry for a table, without keys if it had none. -/
def openTable (c : Cache α) (name : String) : Cache α :=
  if c.tables.contains name then c else { c with tables := c.tables.insert name ∅ }

/-- A counter without an entry is zero. -/
theorem counter_of_not_contains (h : ¬ c.counters.contains name) :
  c.counter name = 0
  := by
  rw [counter, Std.TreeMap.getElem?_eq_none_of_contains_eq_false (Bool.eq_false_iff.mpr h)]
  rfl

/-- A table without an entry is empty. -/
theorem table_of_not_contains (h : ¬ c.tables.contains name) :
  c.table name = ∅
  := by
  rw [table, Std.TreeMap.getElem?_eq_none_of_contains_eq_false (Bool.eq_false_iff.mpr h)]
  rfl

/-- A new entry makes no difference to what counters hold. -/
theorem counter_openCounter (c : Cache α) (n : String) :
  (c.openCounter n).counter name = c.counter name
  := by
  rw [openCounter]
  split_ifs with h
  · rfl
  · rw [counter_withCounter]
    split_ifs with hn
    · subst hn
      rw [counter_of_not_contains h]
    · rfl

/-- A new entry makes no difference to what tables hold. -/
theorem table_openTable (c : Cache α) (n : String) :
  (c.openTable n).table name = c.table name
  := by
  rw [openTable]
  split_ifs with h
  · rfl
  · simp only [table, Std.TreeMap.getElem?_insert, Std.compare_eq_iff_eq]
    split_ifs with hn
    · subst hn
      rw [← table, table_of_not_contains h]
      rfl
    · rfl

theorem find_openTable (c : Cache α) (n : String) {key : String} :
  (c.openTable n).find name key = c.find name key
  := by
  rw [find, table_openTable, find]

/-! ### Writes -/

/-- What changes a cache. An increment is a signed 64-bit number. -/
inductive Write (α : Type) where
  | append (name : String) (value : α)
  | increment (name : String) (n : Int64)
  | put (name key : String) (value : α)
  | clear

/-- The step of a history that a write is. -/
def Write.step : Write α → Step α
  | .append name value => .append name value
  | .increment name n => .increment name n.toInt
  | .put name key value => .put name key value
  | .clear => .clear

/-- A write through the entry of its store, which is made before the write is checked. -/
def writeInPlace (c : Cache α) : Write α → Cache α × Answer α
  | .append name value => (c.append name value, .done)
  | .increment name n =>
    let c := c.openCounter name
    let sum := c.counter name + n.toInt
    if inCounterRange sum then (c.withCounter name sum, .total sum)
    else (c, .fault (.counterOverflow name))
  | .put name key value =>
    let c := c.openTable name
    if (c.table name).contains key then (c, .fault (.duplicateKey name key))
    else (c.withEntry name key value, .done)
  | .clear => (empty, .done)

/-- An increment is refused exactly if the sum is out of range, whether the entry of its counter is
new or not. -/
theorem writeInPlace_increment (c : Cache α) (name : String) (n : Int64) :
  c.writeInPlace (.increment name n)
    = if inCounterRange (c.counter name + n.toInt) then
        ((c.openCounter name).withCounter name (c.counter name + n.toInt),
          .total (c.counter name + n.toInt))
      else (c.openCounter name, .fault (.counterOverflow name))
  := by
  rw [← counter_openCounter c name]
  rfl

/-- A key is refused exactly if its table has it, whether the entry of the table is new or not. -/
theorem writeInPlace_put (c : Cache α) (name key : String) (value : α) :
  c.writeInPlace (.put name key value)
    = if (c.find name key).isSome then (c.openTable name, .fault (.duplicateKey name key))
      else ((c.openTable name).withEntry name key value, .done)
  := by
  rw [← find_openTable c name, find, ← Std.TreeMap.contains_eq_isSome_getElem?]
  rfl

/-! ### Refused writes -/

/-- A counter at zero has room for every increment. -/
theorem inCounterRange_zero_add (n : Int64) :
  inCounterRange (0 + n.toInt)
  := by
  rw [inCounterRange_iff]
  have hlow := n.le_toInt
  have hhigh := n.toInt_lt
  omega

/-- Only a counter that has an entry refuses an increment. -/
theorem openCounter_of_refused {n : Int64} (h : ¬ inCounterRange (c.counter name + n.toInt)) :
  c.openCounter name = c
  := by
  apply if_pos
  by_contra hnew
  apply h
  rw [counter_of_not_contains hnew]
  apply inCounterRange_zero_add

/-- Only a table that has an entry refuses a key. -/
theorem openTable_of_refused {key : String} (h : (c.find name key).isSome) :
  c.openTable name = c
  := by
  apply if_pos
  by_contra hnew
  rw [find, table_of_not_contains hnew] at h
  cases h

/-- A write that is refused leaves no new entry behind either. -/
theorem writeInPlace_refused {w : Write α} {cause : Fault}
    (h : (c.writeInPlace w).2 = .fault cause) :
  (c.writeInPlace w).1 = c
  := by
  cases w with
  | append name value => cases h
  | increment name n =>
      rw [writeInPlace_increment] at h ⊢
      by_cases hsum : inCounterRange (c.counter name + n.toInt)
      · rw [if_pos hsum] at h
        cases h
      · rw [if_neg hsum]
        apply openCounter_of_refused hsum
  | put name key value =>
      rw [writeInPlace_put] at h ⊢
      by_cases hkey : (c.find name key).isSome
      · rw [if_pos hkey]
        apply openTable_of_refused hkey
      · rw [if_neg hkey] at h
        cases h
  | clear => cases h

/-! ### The same answers -/

/-- Two caches hold the same in every store, and both or neither hold nothing at all. -/
structure Alike (c c' : Cache α) : Prop where
  agreeAt : ∀ x, c.AgreeAt c' x
  isEmpty : c.isEmpty = c'.isEmpty

theorem alike_refl (c : Cache α) :
  c.Alike c
  := ⟨c.agreeAt_refl, rfl⟩

/-- Caches that hold the same answer the same. -/
theorem Alike.answer (h : c.Alike c') (i : Step α) :
  (c'.step i).2 = (c.step i).2
  := by
  cases hi : i.store with
  | some x => apply (h.agreeAt x).answer hi
  | none =>
      cases i <;> cases hi
      · apply congrArg Answer.flag h.isEmpty.symm
      · rfl

theorem AgreeAt.trans {c'' : Cache α} {x : Store} (h : c.AgreeAt c' x) (h' : c'.AgreeAt c'' x) :
  c.AgreeAt c'' x
  := by
  cases x <;> exact Eq.trans h h'

/-- In every store, a cache holds the same with the new counter as without. -/
theorem agreeAt_openCounter (c : Cache α) (name : String) (x : Store) :
  (c.openCounter name).AgreeAt c x
  := by
  cases x with
  | counter => apply counter_openCounter
  | sequence | table =>
      rw [AgreeAt, openCounter]
      split_ifs <;> rfl

/-- In every store, a cache holds the same with the new table as without. -/
theorem agreeAt_openTable (c : Cache α) (name : String) (x : Store) :
  (c.openTable name).AgreeAt c x
  := by
  cases x with
  | table => apply table_openTable
  | sequence | counter =>
      rw [AgreeAt, openTable]
      split_ifs <;> rfl

/-- Caches that hold the same do so after a value has been appended. -/
theorem alike_append (h : ∀ x, c.AgreeAt c' x) (name : String) (value : α) :
  (c.append name value).Alike (c'.append name value)
  where
  agreeAt x := by
    cases x with
    | sequence n =>
        have hn : c.sequence n = c'.sequence n := h (.sequence n)
        rw [AgreeAt, sequence_append, sequence_append, hn]
    | counter n => exact h (.counter n)
    | table n => exact h (.table n)
  isEmpty := by simp [Cache.isEmpty, append]

theorem alike_withCounter (h : ∀ x, c.AgreeAt c' x) (name : String) (n : Int) :
  (c.withCounter name n).Alike (c'.withCounter name n)
  where
  agreeAt x := by
    cases x with
    | sequence m => exact h (.sequence m)
    | counter m =>
        have hm : c.counter m = c'.counter m := h (.counter m)
        rw [AgreeAt, counter_withCounter, counter_withCounter, hm]
    | table m => exact h (.table m)
  isEmpty := by simp [Cache.isEmpty, withCounter]

theorem alike_withEntry (h : ∀ x, c.AgreeAt c' x) (name key : String) (value : α) :
  (c.withEntry name key value).Alike (c'.withEntry name key value)
  where
  agreeAt x := by
    cases x with
    | sequence n => exact h (.sequence n)
    | counter n => exact h (.counter n)
    | table n =>
        have hn : c.table n = c'.table n := h (.table n)
        rw [AgreeAt, table_withEntry, table_withEntry, hn]
  isEmpty := by simp [Cache.isEmpty, withEntry]

/-- A write in place does what the write does otherwise. -/
theorem Alike.writeInPlace (h : c.Alike c') (w : Write α) :
  (c.writeInPlace w).2 = (c'.step w.step).2 ∧ (c.writeInPlace w).1.Alike (c'.step w.step).1
  := by
  cases w with
  | append name value => exact ⟨rfl, alike_append h.agreeAt name value⟩
  | increment name n =>
      have hcounter : c.counter name = c'.counter name := h.agreeAt (.counter name)
      rw [writeInPlace_increment, Write.step, step_increment, hcounter]
      by_cases hsum : inCounterRange (c'.counter name + n.toInt)
      · rw [if_pos hsum, if_pos hsum]
        constructor
        · rfl
        · apply alike_withCounter
          intro x
          apply (agreeAt_openCounter c name x).trans (h.agreeAt x)
      · rw [if_neg hsum, if_neg hsum, openCounter_of_refused (hcounter ▸ hsum)]
        exact ⟨rfl, h⟩
  | put name key value =>
      have hfind : c.find name key = c'.find name key := by
        have htable : c.table name = c'.table name := h.agreeAt (.table name)
        rw [find, htable, find]
      rw [writeInPlace_put, Write.step, step_put, hfind]
      by_cases hkey : (c'.find name key).isSome
      · rw [if_pos hkey, if_pos hkey, openTable_of_refused (hfind ▸ hkey)]
        exact ⟨rfl, h⟩
      · rw [if_neg hkey, if_neg hkey]
        constructor
        · rfl
        · apply alike_withEntry
          intro x
          apply (agreeAt_openTable c name x).trans (h.agreeAt x)
  | clear => exact ⟨rfl, alike_refl empty⟩

/-- Writing in place, one write after another, answers as the steps do, and leaves a cache that
holds the same. -/
theorem Alike.runInPlace (h : c.Alike c') (ws : List (Write α)) :
  (runSteps Cache.writeInPlace c ws).2 = (runSteps step c' (ws.map Write.step)).2
    ∧ (runSteps Cache.writeInPlace c ws).1.Alike (runSteps step c' (ws.map Write.step)).1
  := by
  induction ws generalizing c c' with
  | nil => exact ⟨rfl, h⟩
  | cons w ws ih =>
      obtain ⟨hanswer, hafter⟩ := h.writeInPlace w
      obtain ⟨hanswers, hend⟩ := ih hafter
      rw [List.map_cons, runSteps_cons, runSteps_cons, hanswer, hanswers]
      exact ⟨rfl, hend⟩

/-! ### Histories -/

/-- Written in place, a cache is changed by no write that is refused, although the entry is made
before the write is checked. A counter or a table to which nothing was accepted since everything was
last forgotten refuses nothing. All answers are those of a cache whose writes are checked first. -/
theorem runInPlace_refused_changes_nothing (ws : List (Write α)) :
  let c := (runSteps writeInPlace empty ws).1
  let steps := ws.map Write.step
  let past := sinceLast (fun e => e.1.clears) (steps.zip (run steps).2)
  (∀ w cause, (c.writeInPlace w).2 = .fault cause → (c.writeInPlace w).1 = c)
    ∧ (∀ name n, (∀ e ∈ past, added name e = none) →
        (c.writeInPlace (.increment name n)).2 = .total n.toInt)
    ∧ (∀ name key value, (∀ e ∈ past, offered name e = none) →
        (c.writeInPlace (.put name key value)).2 = .done)
    ∧ (runSteps writeInPlace empty ws).2 = (run steps).2
    ∧ ∀ i : Step α, (c.step i).2 = ((run steps).1.step i).2
  := by
  intro c steps past
  obtain ⟨hanswers, halike⟩ := (alike_refl (empty : Cache α)).runInPlace ws
  have htells : (run steps).1.Tells past := tells_run steps
  constructor
  · intro w cause
    apply writeInPlace_refused
  constructor
  · intro name n hnew
    have hcounter : (run steps).1.counter name = 0 := by
      rw [htells.counter, List.filterMap_eq_nil_iff.mpr hnew]
      rfl
    rw [(halike.writeInPlace _).1, Write.step, ← run, snd_step_increment, hcounter,
      if_pos (inCounterRange_zero_add n), Int.zero_add]
  constructor
  · intro name key value hnew
    have hfind : (run steps).1.find name key = none := by
      rw [htells.find, List.filterMap_eq_nil_iff.mpr hnew]
      rfl
    rw [(halike.writeInPlace _).1, Write.step, ← run, snd_step_put, hfind]
    rfl
  constructor
  · apply hanswers
  · intro i
    symm
    apply halike.answer

end Cache

end Recompile
