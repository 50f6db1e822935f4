import Mathlib.Data.List.Basic
import Mathlib.Data.List.Induction
import Mathlib.Data.List.Nodup
import Mathlib.Tactic.SplitIfs
import Mathlib.Tactic.Use
import Std.Data.TreeMap.Lemmas
import Recompile.Symbols

/-!
# Names and their packages

The symbols are kept in two tables, one by name and one by package, that say the same
(`Symbols.Grouped`). A history says what they hold: a name is where it was last inserted unless
that was undone since, and the names of a package come in the order in which they entered it for
the stay they are in now.
-/

namespace Recompile

namespace Symbols

variable {s : Symbols} {name package p q : String} {module : FileId} {steps : List Step}
  {packages : Std.TreeMap String (List String)}

/-! ### Finding names -/

/-- A definition is found for a name exactly if its module and its package are. -/
theorem find_eq_some_iff :
  s.find name = some ⟨module, p⟩ ↔ s.lookup name = some module ∧ s.packageOf name = some p
  := by
  rw [lookup, packageOf]
  cases s.find name with
  | none => simp
  | some d =>
      obtain ⟨m, q⟩ := d
      simp

/-- There is a definition for a name exactly if a module is found for it. -/
theorem mem_definitions_iff :
  name ∈ s.definitions ↔ (s.lookup name).isSome
  := by
  rw [lookup, Option.isSome_map, find, Std.TreeMap.mem_iff_isSome_getElem?]

theorem find_empty :
  empty.find name = none
  := Std.TreeMap.getElem?_emptyc

/-- Afterwards the name is found where it was inserted, and every other where it was before. -/
theorem find_insert {n : String} :
  (s.insert name module package).find n
    = if n = name then some ⟨module, package⟩ else s.find n
  := by
  simp only [find, insert, Std.TreeMap.getElem?_insert, Std.compare_eq_iff_eq, eq_comm (a := name)]

theorem getElem?_foldl_erase (names : List String) (ds : Std.TreeMap String Definition) :
  (names.foldl (fun ds name => ds.erase name) ds)[name]?
    = if name ∈ names then none else ds[name]?
  := by
  induction names generalizing ds with
  | nil => simp
  | cons n names ih =>
      rw [List.foldl_cons, ih]
      simp only [Std.TreeMap.getElem?_erase, Std.compare_eq_iff_eq, List.mem_cons]
      by_cases h : name = n
      · simp [h]
      · have h' : ¬ n = name := Ne.symm h
        simp [h, h']

/-- Removing a package forgets the names on its list. -/
theorem find_removePackage :
  (s.removePackage p).find name = if name ∈ s.namesOf p then none else s.find name
  := getElem?_foldl_erase _ _

/-! ### The lists of names -/

theorem leave_of_some {names : List String} (h : packages[p]? = some names) (name : String) :
  leave packages p name
    = if names.filter (· ≠ name) = [] then packages.erase p
      else packages.insert p (names.filter (· ≠ name))
  := by
  rw [leave, h]

/-- A name that leaves a package is taken off its list, and all other lists stay as they are. -/
theorem getD_leave (packages : Std.TreeMap String (List String)) (p name q : String) :
  (leave packages p name)[q]?.getD []
    = if q = p then (packages[q]?.getD []).filter (· ≠ name) else packages[q]?.getD []
  := by
  cases h : packages[p]? with
  | none =>
      rw [leave, h]
      split_ifs with hq
      · simp [hq, h]
      · rfl
  | some names =>
      rw [leave_of_some h]
      by_cases hq : q = p
      · subst hq
        rw [if_pos rfl, h, Option.getD_some]
        split_ifs with hrest
        · rw [hrest]
          simp
        · simp
      · have hq' : ¬ p = q := Ne.symm hq
        rw [if_neg hq]
        split_ifs
        · simp [Std.TreeMap.getElem?_erase, hq']
        · simp [Std.TreeMap.getElem?_insert, hq']

/-- A name that enters a package comes last on its list. -/
theorem getD_enter (packages : Std.TreeMap String (List String)) (p name q : String) :
  (enter packages p name)[q]?.getD []
    = if q = p then packages[q]?.getD [] ++ [name] else packages[q]?.getD []
  := by
  simp only [enter, Std.TreeMap.getElem?_insert, Std.compare_eq_iff_eq]
  by_cases hq : q = p
  · simp [hq]
  · have hq' : ¬ p = q := Ne.symm hq
    simp [hq, hq']

/-- No list of names is empty. -/
def Filled (packages : Std.TreeMap String (List String)) : Prop :=
  ∀ p : String, packages[p]? ≠ some []

/-- A list that loses its last name is given up, so no list becomes empty. -/
theorem Filled.leave (h : Filled packages) (p name : String) :
  Filled (leave packages p name)
  := by
  intro q
  cases hp : packages[p]? with
  | none =>
      rw [Symbols.leave, hp]
      apply h
  | some names =>
      rw [leave_of_some hp]
      split_ifs with hrest
      · rw [Std.TreeMap.getElem?_erase]
        split_ifs
        · simp
        · apply h
      · rw [Std.TreeMap.getElem?_insert]
        split_ifs
        · rwa [Ne, Option.some.injEq]
        · apply h

theorem Filled.enter (h : Filled packages) (p name : String) :
  Filled (enter packages p name)
  := by
  intro q
  rw [Symbols.enter, Std.TreeMap.getElem?_insert]
  split_ifs
  · simp
  · apply h

/-- The two tables say the same: the names of a package are those that belong to it, each once,
and no package is without names. -/
structure Grouped (s : Symbols) : Prop where
  mem_namesOf : ∀ name p, name ∈ s.namesOf p ↔ s.packageOf name = some p
  nodup : ∀ p, (s.namesOf p).Nodup
  filled : Filled s.packages

theorem grouped_empty :
  empty.Grouped
  where
  mem_namesOf name p := by
    rw [packageOf, find_empty]
    simp [namesOf, empty]
  nodup p := by simp [namesOf, empty]
  filled p := by simp [empty]

/-- Every name of a package has a module. -/
theorem Grouped.map_some_inPackage (h : s.Grouped) (p : String) :
  (s.inPackage p).map some = (s.namesOf p).map s.lookup
  := by
  have hlookup (name : String) (hname : name ∈ s.namesOf p) : ∃ m, s.lookup name = some m := by
    obtain ⟨d, hd, -⟩ := Option.map_eq_some_iff.mp ((h.mem_namesOf name p).mp hname)
    use d.module
    rw [lookup, hd, Option.map_some]
  rw [inPackage]
  generalize s.namesOf p = names at hlookup
  induction names with
  | nil => rfl
  | cons name names ih =>
      obtain ⟨m, hm⟩ := hlookup name List.mem_cons_self
      rw [List.filterMap_cons_some hm, List.map_cons, List.map_cons, hm,
        ih fun n hn => hlookup n (List.mem_cons_of_mem _ hn)]

/-! ### Inserting a name -/

/-- Afterwards the name belongs to the package it was inserted under. -/
theorem packageOf_insert {n : String} :
  (s.insert name module package).packageOf n = if n = name then some package else s.packageOf n
  := by
  rw [packageOf, find_insert]
  split_ifs <;> rfl

/-- A name that is inserted under its package keeps its place; any other leaves the list it is on
and comes last. -/
theorem Grouped.namesOf_insert (h : s.Grouped) :
  (s.insert name module package).namesOf q
    = if s.packageOf name = some package then s.namesOf q
      else if q = package then s.namesOf q ++ [name]
      else (s.namesOf q).filter (· ≠ name)
  := by
  -- A name is on no other list than that of its package.
  have hfilter (hq : s.packageOf name ≠ some q) :
      (s.namesOf q).filter (· ≠ name) = s.namesOf q := by
    apply List.filter_eq_self.mpr
    intro n hn
    apply decide_eq_true
    rintro rfl
    apply hq ((h.mem_namesOf _ _).mp hn)
  cases hold : s.packageOf name with
  | none =>
      rw [hold] at hfilter
      rw [if_neg (by simp), hfilter (by simp)]
      have hpackages : (s.insert name module package).packages
          = enter s.packages package name := by
        rw [insert, hold]
      rw [namesOf, hpackages, getD_enter]
      rfl
  | some old =>
      rw [hold] at hfilter
      by_cases hold' : old = package
      · have hpackages : (s.insert name module package).packages = s.packages := by
          rw [insert, hold]
          apply if_pos hold'
        rw [if_pos (congrArg some hold'), namesOf, hpackages]
        rfl
      · have hpackages : (s.insert name module package).packages
            = enter (leave s.packages old name) package name := by
          rw [insert, hold]
          apply if_neg hold'
        rw [if_neg (by simpa using hold'), namesOf, hpackages, getD_enter, getD_leave]
        by_cases hq : q = old
        · have hq' : ¬ q = package := by
            rintro rfl
            apply hold' hq.symm
          rw [if_neg hq', if_pos hq, if_neg hq']
          rfl
        · rw [if_neg hq, hfilter (by simpa using Ne.symm hq)]
          rfl

/-- It is on the list of this package and on no other. -/
theorem Grouped.mem_namesOf_insert (h : s.Grouped) {n : String} :
  n ∈ (s.insert name module package).namesOf q
    ↔ if n = name then q = package else n ∈ s.namesOf q
  := by
  rw [h.namesOf_insert]
  by_cases hn : n = name
  · subst hn
    rw [if_pos rfl]
    split_ifs with hstays hq
    · rw [h.mem_namesOf, hstays, Option.some.injEq, eq_comm]
    · simp [hq]
    · simp [hq]
  · rw [if_neg hn]
    split_ifs
    · rfl
    · simp [hn]
    · simp [hn]

/-- After a name is inserted the two tables still say the same. -/
theorem Grouped.insert (h : s.Grouped) (name : String) (module : FileId) (package : String) :
  (s.insert name module package).Grouped
  where
  mem_namesOf n q := by
    rw [h.mem_namesOf_insert, packageOf_insert]
    split_ifs
    · rw [Option.some.injEq, eq_comm]
    · apply h.mem_namesOf
  nodup q := by
    rw [h.namesOf_insert]
    split_ifs with hstays hq
    · apply h.nodup
    · rw [← List.concat_eq_append]
      apply List.Nodup.concat _ (h.nodup q)
      rw [h.mem_namesOf, hq]
      apply hstays
    · apply (h.nodup q).filter
  filled := by
    rw [Symbols.insert]
    split
    · apply h.filled.enter
    · split_ifs
      · apply h.filled
      · apply (h.filled.leave _ _).enter

/-! ### Removing a package -/

/-- Removing a package forgets the names that belong to it. -/
theorem Grouped.find_removePackage (h : s.Grouped) :
  (s.removePackage p).find name = if s.packageOf name = some p then none else s.find name
  := by
  simp only [Symbols.find_removePackage, h.mem_namesOf]

/-- It leaves no list for the package, and the lists of all others as they are. -/
theorem namesOf_removePackage :
  (s.removePackage p).namesOf q = if q = p then [] else s.namesOf q
  := by
  simp only [namesOf, removePackage, Std.TreeMap.getElem?_erase, Std.compare_eq_iff_eq]
  by_cases hq : q = p
  · simp [hq]
  · have hq' : ¬ p = q := Ne.symm hq
    simp [hq, hq']

theorem Grouped.packageOf_removePackage (h : s.Grouped) :
  (s.removePackage p).packageOf name
    = if s.packageOf name = some p then none else s.packageOf name
  := by
  rw [packageOf, h.find_removePackage]
  split_ifs <;> rfl

/-- After a package is removed the two tables still say the same. -/
theorem Grouped.removePackage (h : s.Grouped) (p : String) :
  (s.removePackage p).Grouped
  where
  mem_namesOf name q := by
    rw [namesOf_removePackage, h.packageOf_removePackage]
    by_cases hq : q = p
    · subst hq
      by_cases hname : s.packageOf name = some q
      · simp [hname]
      · simp [hname]
    · rw [if_neg hq, h.mem_namesOf]
      by_cases hname : s.packageOf name = some p
      · simp [hname, Ne.symm hq]
      · simp [hname]
  nodup q := by
    rw [namesOf_removePackage]
    split_ifs
    · apply List.nodup_nil
    · apply h.nodup
  filled q := by
    rw [Symbols.removePackage, Std.TreeMap.getElem?_erase]
    split_ifs
    · simp
    · apply h.filled

theorem Grouped.lookup_removePackage (h : s.Grouped) :
  (s.removePackage p).lookup name = if s.packageOf name = some p then none else s.lookup name
  := by
  rw [lookup, h.find_removePackage]
  split_ifs <;> rfl

/-- The modules of the other packages stay as they were. -/
theorem Grouped.inPackage_removePackage (h : s.Grouped) :
  (s.removePackage p).inPackage q = if q = p then [] else s.inPackage q
  := by
  rw [inPackage, namesOf_removePackage]
  split_ifs with hq
  · rfl
  · apply List.filterMap_congr
    intro name hname
    rw [lookup, h.find_removePackage, if_neg]
    · rfl
    · rw [(h.mem_namesOf _ _).mp hname]
      simpa using hq

/-! ### Single steps -/

/-- No step makes the two tables differ. -/
theorem Grouped.step (h : s.Grouped) (i : Step) :
  (s.step i).1.Grouped
  := by
  cases i with
  | insert name module package => apply h.insert
  | removePackage p => apply h.removePackage
  | clear => apply grouped_empty
  | lookup | packageOf | inPackage | size | isEmpty | debugText => apply h

/-- Whatever history there was, the two tables say the same. -/
theorem grouped_run (steps : List Step) :
  (run steps).1.Grouped
  := runSteps_induction (fun _ i h => h.step i) grouped_empty steps

theorem run_concat (steps : List Step) (i : Step) :
  (run (steps ++ [i])).1 = ((run steps).1.step i).1
  := by
  rw [run, runSteps_concat]
  rfl

/-- A step after which a name is no longer defined in a package as it was before: the name is
inserted anew, or the package is removed, or everything is. -/
def Step.undoes (name package : String) : Step → Bool
  | .insert n _ _ => n = name
  | .removePackage p => p = package
  | .clear => true
  | _ => false

/-- A name is where it was, unless the step undoes that, or where the step inserts it. -/
theorem Grouped.find_step (h : s.Grouped) (i : Step) :
  (s.step i).1.find name = some ⟨module, p⟩
    ↔ i = .insert name module p ∨ s.find name = some ⟨module, p⟩ ∧ i.undoes name p = false
  := by
  cases i with
  | insert n m q =>
      rw [Symbols.step, find_insert]
      by_cases hn : name = n
      · subst hn
        simp [Step.undoes]
      · simp [Step.undoes, hn, Ne.symm hn]
  | removePackage q =>
      rw [Symbols.step, h.find_removePackage, packageOf]
      cases s.find name with
      | none => simp
      | some d =>
          obtain ⟨m, r⟩ := d
          by_cases hr : r = q
          · subst hr
            simp +contextual [Step.undoes]
          · have hundoes (hp : r = p) : ¬ q = p := by
              rw [← hp]
              apply Ne.symm hr
            simp +contextual [Step.undoes, hr, hundoes]
  | clear => simp [Symbols.step, find_empty, Step.undoes]
  | lookup | packageOf | inPackage | size | isEmpty | debugText =>
      simp [Symbols.step, Step.undoes]

/-! ### Histories -/

/-- A name is defined as it was last inserted, unless that was undone since. -/
theorem find_run (steps : List Step) :
  (run steps).1.find name = some ⟨module, p⟩
    ↔ ∃ before after, steps = before ++ .insert name module p :: after
        ∧ ∀ i ∈ after, i.undoes name p = false
  := by
  induction steps using List.reverseRecOn with
  | nil => simp [run, find_empty]
  | append_singleton steps i ih =>
      rw [run_concat, (grouped_run steps).find_step, ih]
      constructor
      · rintro (rfl | ⟨⟨before, after, rfl, hafter⟩, hi⟩)
        · use steps, [], rfl
          simp
        · use before, after ++ [i], by simp
          intro j hj
          rcases List.mem_append.mp hj with hj | hj
          · apply hafter j hj
          · obtain rfl := List.mem_singleton.mp hj
            apply hi
      · rintro ⟨before, after, hsteps, hafter⟩
        rcases List.eq_nil_or_concat after with rfl | ⟨after, j, rfl⟩
        · left
          apply (List.append_singleton_inj.mp hsteps).2
        · right
          rw [List.concat_eq_append, ← List.cons_append, ← List.append_assoc] at hsteps
          rw [List.concat_eq_append] at hafter
          obtain ⟨rfl, rfl⟩ := List.append_singleton_inj.mp hsteps
          constructor
          · use before, after, rfl
            intro j hj
            apply hafter j (List.mem_append_left _ hj)
          · apply hafter i (List.mem_append_right _ (List.mem_singleton_self _))

/-- A step takes names from the list of a package, or puts one at its end that belonged elsewhere
or nowhere. -/
theorem Grouped.namesOf_step (h : s.Grouped) (i : Step) (p : String) :
  ((s.step i).1.namesOf p).Sublist (s.namesOf p)
    ∨ ∃ name, s.packageOf name ≠ some p ∧ (s.step i).1.namesOf p = s.namesOf p ++ [name]
  := by
  cases i with
  | insert name module package =>
      rw [Symbols.step, h.namesOf_insert]
      split_ifs with hstays hp
      · left
        apply List.Sublist.refl
      · right
        use name, (by rwa [hp])
      · left
        apply List.filter_sublist
  | removePackage q =>
      left
      rw [Symbols.step, namesOf_removePackage]
      split_ifs
      · apply List.nil_sublist
      · apply List.Sublist.refl
  | clear =>
      left
      apply List.nil_sublist
  | lookup | packageOf | inPackage | size | isEmpty | debugText =>
      left
      apply List.Sublist.refl

/-- The name `a` has been in a package since a time when the name `b` was not in it. -/
def EnteredBefore (steps : List Step) (p a b : String) : Prop :=
  ∃ n ≤ steps.length, (∀ k ≥ n, (run (steps.take k)).1.packageOf a = some p)
    ∧ (run (steps.take n)).1.packageOf b ≠ some p

/-- What holds after the first steps and after one more holds from then on. -/
theorem packageOf_take_concat {i : Step} {n k : Nat} (hn : n ≤ k)
    (hbefore : ∀ k ≥ n, (run (steps.take k)).1.packageOf name = some p)
    (hnow : (run (steps ++ [i])).1.packageOf name = some p) :
  (run ((steps ++ [i]).take k)).1.packageOf name = some p
  := by
  rcases Nat.lt_or_ge steps.length k with hk | hk
  · rw [List.take_of_length_le]
    · apply hnow
    · rw [List.length_append, List.length_singleton]
      apply hk
  · rw [List.take_append_of_le_length hk]
    apply hbefore k hn

/-- The names of a package come in the order in which they entered it. -/
theorem namesOf_run_pairwise (steps : List Step) (p : String) :
  ((run steps).1.namesOf p).Pairwise (EnteredBefore steps p)
  := by
  induction steps using List.reverseRecOn with
  | nil => apply List.Pairwise.nil
  | append_singleton steps i ih =>
      have h := grouped_run steps
      have h' := grouped_run (steps ++ [i])
      have hnow (a : String) (ha : a ∈ (run (steps ++ [i])).1.namesOf p) :
          (run (steps ++ [i])).1.packageOf a = some p :=
        (h'.mem_namesOf a p).mp ha
      -- Names that stay keep their order.
      have hold (a b : String) (ha : a ∈ (run (steps ++ [i])).1.namesOf p)
          (hab : EnteredBefore steps p a b) : EnteredBefore (steps ++ [i]) p a b := by
        obtain ⟨n, hn, hka, hnb⟩ := hab
        use n
        constructor
        · rw [List.length_append]
          apply Nat.le_add_right_of_le hn
        constructor
        · intro k hk
          apply packageOf_take_concat hk hka (hnow a ha)
        · rwa [List.take_append_of_le_length hn]
      rcases h.namesOf_step i p with hsublist | ⟨name, hname, happend⟩
      · rw [← run_concat] at hsublist
        apply (ih.sublist hsublist).imp_of_mem
        intro a b ha _ hab
        apply hold a b ha hab
      · rw [← run_concat] at happend
        rw [happend] at hnow hold ⊢
        rw [List.pairwise_append]
        constructor
        · apply ih.imp_of_mem
          intro a b ha _ hab
          apply hold a b (List.mem_append_left _ ha) hab
        use List.pairwise_singleton _ _
        intro a ha b hb
        obtain rfl := List.mem_singleton.mp hb
        have hlast (k : Nat) (hk : k ≥ steps.length) :
            (run (steps.take k)).1.packageOf a = some p := by
          rw [List.take_of_length_le hk]
          apply (h.mem_namesOf a p).mp ha
        use steps.length, by simp
        constructor
        · intro k hk
          apply packageOf_take_concat hk hlast (hnow a (List.mem_append_left _ ha))
        · rw [List.take_left]
          apply hname

/-- After any history a name is defined as it was last inserted, unless the package it was in has
been removed since, or everything has. Both tables say the same: a name belongs to a package
exactly if it is on its list, where it is once and on no other list, and no list is empty. The
modules of a package are those of its names in the order in which these entered it for the stay
they are in now. Removing a package forgets the names that belong to it and nothing else. -/
theorem run_tells_packages (steps : List Step) :
  let s := (run steps).1
  (∀ name m p, s.lookup name = some m ∧ s.packageOf name = some p
      ↔ ∃ before after, steps = before ++ .insert name m p :: after
          ∧ ∀ i ∈ after, i.undoes name p = false)
    ∧ (∀ name p, s.packageOf name = some p ↔ name ∈ s.namesOf p)
    ∧ (∀ p, (s.namesOf p).Nodup)
    ∧ (∀ name p q, name ∈ s.namesOf p → name ∈ s.namesOf q → p = q)
    ∧ (∀ p : String, s.packages[p]? ≠ some [])
    ∧ (∀ p, (s.inPackage p).map some = (s.namesOf p).map s.lookup)
    ∧ (∀ p, (s.namesOf p).Pairwise fun a b =>
        ∃ n ≤ steps.length, (∀ k ≥ n, (run (steps.take k)).1.packageOf a = some p)
          ∧ (run (steps.take n)).1.packageOf b ≠ some p)
    ∧ (∃ live : List String, live.Nodup ∧ (∀ name, name ∈ live ↔ (s.lookup name).isSome)
        ∧ s.size = live.length)
    ∧ ∀ p, let s' := s.removePackage p
        (∀ name, s'.lookup name = if s.packageOf name = some p then none else s.lookup name)
        ∧ (∀ name, s'.packageOf name
          = if s.packageOf name = some p then none else s.packageOf name)
        ∧ ∀ q, s'.inPackage q = if q = p then [] else s.inPackage q
  := by
  intro s
  have h : s.Grouped := grouped_run steps
  constructor
  · intro name m p
    rw [← find_run, find_eq_some_iff]
  constructor
  · intro name p
    rw [h.mem_namesOf]
  use h.nodup
  constructor
  · intro name p q hp hq
    rw [h.mem_namesOf] at hp hq
    apply Option.some.inj (hp.symm.trans hq)
  use h.filled
  use h.map_some_inPackage
  use namesOf_run_pairwise steps
  constructor
  · use s.definitions.keys, Std.TreeMap.nodup_keys
    constructor
    · intro name
      rw [Std.TreeMap.mem_keys, mem_definitions_iff]
    · symm
      apply Std.TreeMap.length_keys
  · intro p s'
    constructor
    · intro name
      apply h.lookup_removePackage
    constructor
    · intro name
      apply h.packageOf_removePackage
    · intro q
      apply h.inPackage_removePackage

end Symbols

end Recompile
