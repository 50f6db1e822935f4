import Mathlib.Algebra.BigOperators.Group.List.Basic
import Mathlib.Algebra.Ring.Int.Defs
import Mathlib.Tactic.SplitIfs
import Mathlib.Tactic.Use
import Std.Data.TreeMap.Lemmas
import Recompile.Cache
import Recompile.Proofs.ByteOrder

/-!
# Named stores

What the compile-time cache holds is told by the events since it was last cleared (`Cache.Tells`): a
sequence has all values that were added to it, a counter the sum of the increments that were
accepted, and a table, for each key, the first value that was offered for it. A step on one store
has no part in what another answers.
-/

namespace Recompile

namespace Cache

variable {α : Type} {c c' : Cache α} {name key : String}

/-! ### What events contribute -/

/-- A step with its answer. -/
abbrev Event (α : Type) := Step α × Answer α

/-- Whether a step forgets everything. -/
def Step.clears : Step α → Bool
  | .clear => true
  | _ => false

/-- The value that an event adds to a sequence. -/
def appended (name : String) : Event α → Option α
  | (.append n value, _) => if n = name then some value else none
  | _ => none

/-- What an event adds to a counter, unless it was refused. -/
def added (name : String) : Event α → Option Int
  | (.increment n k, .total _) => if n = name then some k else none
  | _ => none

/-- The entry that an event offers to a table. -/
def offered (name : String) : Event α → Option (String × α)
  | (.put n key value, _) => if n = name then some (key, value) else none
  | _ => none

/-- Whether an event has written something. -/
def writes : Event α → Bool
  | (.append _ _, _) | (.increment _ _, .total _) | (.put _ _ _, .done) => true
  | _ => false

/-! ### Single writes -/

/-- Appending a value is to its own sequence and to no other. -/
theorem sequence_append (c : Cache α) (n : String) (value : α) :
  (c.append n value).sequence name
    = if n = name then (c.sequence name).push value else c.sequence name
  := by
  simp only [sequence, append, Std.TreeMap.getElem?_insert, Std.compare_eq_iff_eq]
  split_ifs with h
  · subst h
    rfl
  · rfl

/-- A counter holds a signed 64-bit number. -/
theorem inCounterRange_iff {n : Int} :
  inCounterRange n ↔ -2 ^ 63 ≤ n ∧ n ≤ 2 ^ 63 - 1
  := by
  rw [inCounterRange, Bool.and_eq_true, decide_eq_true_iff, decide_eq_true_iff]
  rfl

/-- The cache with a counter set to a value. -/
def withCounter (c : Cache α) (name : String) (n : Int) : Cache α :=
  { c with counters := c.counters.insert name n }

/-- Setting a counter leaves all others as they are. -/
theorem counter_withCounter (c : Cache α) (n : String) (k : Int) :
  (c.withCounter n k).counter name = if n = name then k else c.counter name
  := by
  simp only [counter, withCounter, Std.TreeMap.getElem?_insert, Std.compare_eq_iff_eq]
  split_ifs <;> rfl

/-- An increment is refused exactly if the sum is out of range. -/
theorem step_increment (c : Cache α) (name : String) (n : Int) :
  c.step (.increment name n)
    = if inCounterRange (c.counter name + n) then
        (c.withCounter name (c.counter name + n), .total (c.counter name + n))
      else (c, .fault (.counterOverflow name))
  := by
  simp only [step, increment]
  split_ifs <;> rfl

theorem snd_step_increment (c : Cache α) (name : String) (n : Int) :
  (c.step (.increment name n)).2
    = if inCounterRange (c.counter name + n) then .total (c.counter name + n)
      else .fault (.counterOverflow name)
  := by
  rw [step_increment]
  split_ifs <;> rfl

/-- The cache with an entry in a table. -/
def withEntry (c : Cache α) (name key : String) (value : α) : Cache α :=
  { c with tables := c.tables.insert name ((c.table name).insert key value) }

/-- A new entry is in its own table and in no other. -/
theorem table_withEntry (c : Cache α) (n key : String) (value : α) :
  (c.withEntry n key value).table name
    = if n = name then (c.table name).insert key value else c.table name
  := by
  simp only [table, withEntry, Std.TreeMap.getElem?_insert, Std.compare_eq_iff_eq]
  split_ifs with h
  · subst h
    rfl
  · rfl

/-- Afterwards its value is found for its key, and for all others what was found before. -/
theorem find_withEntry (c : Cache α) (n k : String) (value : α) :
  (c.withEntry n k value).find name key
    = if n = name ∧ k = key then some value else c.find name key
  := by
  rw [find, table_withEntry]
  by_cases hn : n = name
  · simp [hn, find, Std.TreeMap.getElem?_insert]
  · simp [hn, find]

/-- A key is refused exactly if its table has it. -/
theorem step_put (c : Cache α) (name key : String) (value : α) :
  c.step (.put name key value)
    = if (c.find name key).isSome then (c, .fault (.duplicateKey name key))
      else (c.withEntry name key value, .done)
  := by
  have h : (c.table name).contains key = (c.find name key).isSome :=
    Std.TreeMap.contains_eq_isSome_getElem?
  simp only [step, put, h]
  split_ifs <;> rfl

theorem snd_step_put (c : Cache α) (name key : String) (value : α) :
  (c.step (.put name key value)).2
    = if (c.find name key).isSome then .fault (.duplicateKey name key) else .done
  := by
  rw [step_put]
  split_ifs <;> rfl

/-! ### What a cache holds -/

/-- A cache holds what the events have written. -/
structure Tells (c : Cache α) (past : List (Event α)) : Prop where
  sequence name : (c.sequence name).toList = past.filterMap (appended name)
  counter name : c.counter name = (past.filterMap (added name)).sum
  find name key : c.find name key = (past.filterMap (offered name)).lookup key
  isEmpty : c.isEmpty = !past.any writes

/-- Nothing was written to the empty cache. -/
theorem tells_empty :
  (empty : Cache α).Tells []
  where
  sequence _ := rfl
  counter _ := rfl
  find _ _ := rfl
  isEmpty := rfl

/-- A cache has what another has, and what an event writes. -/
structure Gains (c : Cache α) (e : Event α) (c' : Cache α) : Prop where
  sequence name : (c'.sequence name).toList = (c.sequence name).toList ++ (appended name e).toList
  counter name : c'.counter name = c.counter name + (added name e).getD 0
  find name key : c'.find name key = (c.find name key).or ((offered name e).toList.lookup key)
  isEmpty : c'.isEmpty = (c.isEmpty && !writes e)

/-- What an event gives a cache is told by one more event at the end. -/
theorem Tells.concat {past : List (Event α)} {e : Event α} (h : c.Tells past)
    (he : c.Gains e c') :
  c'.Tells (past ++ [e])
  where
  sequence name := by
    rw [filterMap_concat, he.sequence, h.sequence]
  counter name := by
    rw [filterMap_concat, he.counter, h.counter, List.sum_append]
    cases added name e <;> simp
  find name key := by
    rw [filterMap_concat, he.find, h.find, List.lookup_append]
  isEmpty := by
    rw [he.isEmpty, h.isEmpty, List.any_append]
    simp

/-- An event that writes nothing. -/
theorem gains_idle {e : Event α} (hsequence : ∀ name, appended name e = none)
    (hcounter : ∀ name, added name e = none) (htable : ∀ name, offered name e = none)
    (hempty : writes e = false) :
  c.Gains e c
  where
  sequence name := by simp [hsequence]
  counter name := by simp [hcounter]
  find name key := by simp [htable]
  isEmpty := by simp [hempty]

/-- A value is appended behind those that are there. -/
theorem gains_append (c : Cache α) (name : String) (value : α) :
  c.Gains (.append name value, .done) (c.append name value)
  where
  sequence n := by
    rw [sequence_append, appended]
    split_ifs <;> simp
  counter n := by simp [counter, append, added]
  find n key := by simp [find, table, append, offered]
  isEmpty := by simp [isEmpty, append, writes]

/-- An increment that is not refused adds to its counter. -/
theorem gains_withCounter (c : Cache α) (name : String) (n : Int) :
  c.Gains (.increment name n, .total (c.counter name + n))
    (c.withCounter name (c.counter name + n))
  where
  sequence m := by simp [sequence, withCounter, appended]
  counter m := by
    rw [counter_withCounter, added]
    split_ifs with h
    · rw [h]
      rfl
    · simp
  find m key := by simp [find, table, withCounter, offered]
  isEmpty := by simp [isEmpty, withCounter, writes]

theorem lookup_offered (n k : String) (value : α) (a : Answer α) :
  (offered name (.put n k value, a)).toList.lookup key
    = if n = name ∧ k = key then some value else none
  := by
  rw [offered]
  by_cases hn : n = name
  · by_cases hk : k = key
    · simp [hn, hk]
    · have hne : (key == k) = false := beq_eq_false_iff_ne.mpr (Ne.symm hk)
      simp [hn, hk, List.lookup_cons, hne]
  · simp [hn]

/-- A key that is not refused adds its value to what its table holds. -/
theorem gains_withEntry {value : α} (hnew : c.find name key = none) :
  c.Gains (.put name key value, .done) (c.withEntry name key value)
  where
  sequence n := by simp [sequence, withEntry, appended]
  counter n := by simp [counter, withEntry, added]
  find n k := by
    rw [find_withEntry, lookup_offered]
    split_ifs with h
    · obtain ⟨rfl, rfl⟩ := h
      simp [hnew]
    · simp
  isEmpty := by simp [isEmpty, withEntry, writes]

/-- A key that is already there keeps its value. -/
theorem gains_refused {value : α} (hold : (c.find name key).isSome) (cause : Fault) :
  c.Gains (.put name key value, .fault cause) c
  where
  sequence n := by simp [appended]
  counter n := by simp [added]
  find n k := by
    rw [lookup_offered]
    split_ifs with h
    · obtain ⟨rfl, rfl⟩ := h
      rw [Option.or_of_isSome hold]
    · simp
  isEmpty := by simp [writes]

/-- A step that does not forget adds what its event writes. -/
theorem gains_step (c : Cache α) {i : Step α} (hi : i.clears = false) :
  c.Gains (i, (c.step i).2) (c.step i).1
  := by
  cases i with
  | append name value => apply gains_append
  | increment name n =>
      rw [step_increment]
      split_ifs
      · apply gains_withCounter
      · apply gains_idle <;> intros <;> rfl
  | put name key value =>
      rw [step_put]
      split_ifs with h
      · apply gains_refused h
      · apply gains_withEntry (Option.not_isSome_iff_eq_none.mp h)
  | clear => cases hi
  | sequence | sequenceLength | counter | find | tableSize | entries | isEmpty =>
      apply gains_idle <;> intros <;> rfl

/-- After a history a cache holds what was written since everything was last forgotten. -/
theorem tells_run (steps : List (Step α)) :
  (run steps).1.Tells (sinceLast (fun e => e.1.clears) (steps.zip (run steps).2))
  := by
  apply runSteps_sinceLast (P := fun (c : Cache α) past => c.Tells past) _ _ tells_empty
  · intro c i hi
    cases i <;> cases hi
    apply tells_empty
  · intro c past i hi h
    apply h.concat (gains_step c hi)

/-! ### One store apart from the others -/

/-- The stores of a cache. -/
inductive Store where
  | sequence (name : String)
  | counter (name : String)
  | table (name : String)
deriving DecidableEq

/-- The store that a step is about. -/
def Step.store : Step α → Option Store
  | .append name _ | .sequence name | .sequenceLength name => some (.sequence name)
  | .counter name | .increment name _ => some (.counter name)
  | .put name _ _ | .find name _ | .tableSize name | .entries name => some (.table name)
  | .isEmpty | .clear => none

/-- Two caches hold the same in a store. -/
def AgreeAt (c c' : Cache α) : Store → Prop
  | .sequence name => c.sequence name = c'.sequence name
  | .counter name => c.counter name = c'.counter name
  | .table name => c.table name = c'.table name

theorem agreeAt_refl (c : Cache α) (x : Store) :
  c.AgreeAt c x
  := by
  cases x <;> rfl

/-- A step leaves the stores that it is not about as they are. -/
theorem agreeAt_step {i : Step α} {x : Store} (hi : i.clears = false) (hx : i.store ≠ some x) :
  c.AgreeAt (c.step i).1 x
  := by
  cases i with
  | append name value =>
      cases x with
      | sequence n =>
          have hn : name ≠ n := fun h => hx (h ▸ rfl)
          rw [AgreeAt, step, sequence_append, if_neg hn]
      | counter | table => rfl
  | increment name n =>
      rw [step_increment]
      split_ifs
      · cases x with
        | counter m =>
            have hm : name ≠ m := fun h => hx (h ▸ rfl)
            rw [AgreeAt, counter_withCounter, if_neg hm]
        | sequence | table => rfl
      · apply agreeAt_refl
  | put name key value =>
      rw [step_put]
      split_ifs
      · apply agreeAt_refl
      · cases x with
        | table n =>
            have hn : name ≠ n := fun h => hx (h ▸ rfl)
            rw [AgreeAt, table_withEntry, if_neg hn]
        | sequence | counter => rfl
  | clear => cases hi
  | sequence | sequenceLength | counter | find | tableSize | entries | isEmpty =>
      apply agreeAt_refl

/-- What a step answers depends on the store that it is about. -/
theorem AgreeAt.answer {j : Step α} {x : Store} (h : c.AgreeAt c' x) (hj : j.store = some x) :
  (c'.step j).2 = (c.step j).2
  := by
  cases j <;> cases hj <;> rw [AgreeAt] at h
  case put => rw [snd_step_put, snd_step_put, find, find, h]
  case increment => rw [snd_step_increment, snd_step_increment, h]
  all_goals simp only [step, find, entries, h]

/-- Steps on other stores change no answer. -/
theorem answer_runSteps {later : List (Step α)} {j : Step α} {x : Store} (hj : j.store = some x)
    (hlater : ∀ i ∈ later, i.clears = false ∧ i.store ≠ some x) :
  ((runSteps step c later).1.step j).2 = (c.step j).2
  := by
  induction later generalizing c with
  | nil => rfl
  | cons i later ih =>
      obtain ⟨hi, hx⟩ := hlater i List.mem_cons_self
      rw [runSteps_cons, ih fun i hi => hlater i (List.mem_cons_of_mem _ hi)]
      apply (agreeAt_step hi hx).answer hj

/-! ### Tables in order -/

/-- The entries that are listed are those that are found. -/
theorem mem_entries_iff {value : α} :
  (key, value) ∈ c.entries name ↔ c.find name key = some value
  := Std.TreeMap.mem_toList_iff_getElem?_eq_some

/-- The entries of a table are in the order of the bytes of their keys. -/
theorem entries_ascending (c : Cache α) (name : String) :
  (c.entries name).Pairwise fun a b => Utf8.bytes a.1 < Utf8.bytes b.1
  := by
  have h : (c.entries name).Pairwise fun a b => compare a.1 b.1 = .lt :=
    Std.TreeMap.ordered_keys_toList
  apply h.imp
  intro a b hab
  apply Utf8.bytes_lt
  apply compareOfLessAndEq_eq_lt.mp hab

/-! ### Histories -/

/-- The answers of a cache are told by the events since everything was last forgotten. A sequence
has the values that were added to it. A counter has the exact sum of the increments that were not
refused, and refuses those that lead out of its range. A table has the first value that was offered
for each key, refuses all others, and lists its entries once each in the order of the bytes of the
keys. Nothing is kept exactly if nothing was written. A refused write changes nothing, and steps on
other stores, whatever their names, change no answer. -/
theorem run_tells_stores (steps : List (Step α)) :
  let c := (run steps).1
  let past := sinceLast (fun e => e.1.clears) (steps.zip (run steps).2)
  (∀ name, let values := past.filterMap (appended name)
      (c.step (.sequence name)).2 = .values values
        ∧ (c.step (.sequenceLength name)).2 = .count values.length)
    ∧ (∀ name, let sum := (past.filterMap (added name)).sum
        (c.step (.counter name)).2 = .total sum
          ∧ ∀ n, (-2 ^ 63 ≤ sum + n ∧ sum + n ≤ 2 ^ 63 - 1 →
                (c.step (.increment name n)).2 = .total (sum + n))
              ∧ (¬ (-2 ^ 63 ≤ sum + n ∧ sum + n ≤ 2 ^ 63 - 1) →
                c.step (.increment name n) = (c, .fault (.counterOverflow name))))
    ∧ (∀ name key, let first := (past.filterMap (offered name)).lookup key
        (c.step (.find name key)).2 = .value first
          ∧ ∀ value, (first = none → (c.step (.put name key value)).2 = .done)
              ∧ (first ≠ none →
                c.step (.put name key value) = (c, .fault (.duplicateKey name key))))
    ∧ (∀ name, ∃ es, (c.step (.entries name)).2 = .entries es
        ∧ (es.Pairwise fun a b => Utf8.bytes a.1 < Utf8.bytes b.1)
        ∧ (∀ key value, (key, value) ∈ es
            ↔ (past.filterMap (offered name)).lookup key = some value)
        ∧ (c.step (.tableSize name)).2 = .count es.length)
    ∧ (c.step .isEmpty).2 = .flag (!past.any writes)
    ∧ ∀ (later : List (Step α)) j x, j.store = some x →
        (∀ i ∈ later, i.clears = false ∧ i.store ≠ some x) →
        ((run (steps ++ later)).1.step j).2 = (c.step j).2
  := by
  intro c past
  have h : c.Tells past := tells_run steps
  constructor
  · intro name
    simp only [← h.sequence]
    use rfl
    rw [Array.length_toList]
    rfl
  constructor
  · intro name
    simp only [← h.counter, ← inCounterRange_iff, step_increment]
    use rfl
    intro n
    constructor
    · intro hin
      rw [if_pos hin]
    · intro hout
      rw [if_neg hout]
  constructor
  · intro name key
    simp only [← h.find, step_put]
    use rfl
    intro value
    constructor
    · intro hnone
      rw [if_neg (by simp [hnone])]
    · intro hsome
      rw [if_pos (Option.isSome_iff_ne_none.mpr hsome)]
  constructor
  · intro name
    use c.entries name, rfl, entries_ascending c name
    constructor
    · intro key value
      rw [mem_entries_iff, h.find]
    · rw [entries, Std.TreeMap.length_toList]
      rfl
  constructor
  · rw [← h.isEmpty]
    rfl
  · intro later j x hj hlater
    rw [run, runSteps_append]
    apply answer_runSteps hj hlater

end Cache

end Recompile
