/-!
# Machines

A machine takes one step at a time and answers it. A history of a table or of a session is
the list of the steps it took.
-/

namespace Recompile

variable {σ ι ω : Type _}

/-- What is picked from a history with one more step. -/
theorem filterMap_concat (pick : ι → Option ω) (is : List ι) (i : ι) :
  (is ++ [i]).filterMap pick = is.filterMap pick ++ (pick i).toList
  := by
  rw [List.filterMap_append, List.filterMap_cons]
  cases pick i <;> rfl

/-- The part of a history after its last entry of some kind, all of it if there is none. -/
def sinceLast (p : ι → Bool) (is : List ι) : List ι :=
  (is.reverse.takeWhile fun i => !p i).reverse

/-- An entry of the kind leaves nothing of the history, any other comes at the end. -/
theorem sinceLast_concat (p : ι → Bool) (is : List ι) (i : ι) :
  sinceLast p (is ++ [i]) = if p i then [] else sinceLast p is ++ [i]
  := by
  rw [sinceLast, List.reverse_concat, List.takeWhile_cons]
  cases p i with
  | true => rfl
  | false => apply List.reverse_cons

/-- It makes no difference whether entries are changed before or after the history is cut. -/
theorem map_sinceLast (p : ω → Bool) (f : ι → ω) (is : List ι) :
  (sinceLast (fun i => p (f i)) is).map f = sinceLast p (is.map f)
  := by
  rw [sinceLast, sinceLast, List.map_reverse, ← List.map_reverse (l := is), List.takeWhile_map]
  rfl

/-- Takes the steps in order and collects the answers. -/
def runSteps (step : σ → ι → σ × ω) : σ → List ι → σ × List ω
  | s, [] => (s, [])
  | s, i :: is =>
    let (s', a) := step s i
    let (s'', as) := runSteps step s' is
    (s'', a :: as)

@[simp]
theorem runSteps_nil (step : σ → ι → σ × ω) (s : σ) :
  runSteps step s [] = (s, [])
  := rfl

@[simp]
theorem runSteps_cons (step : σ → ι → σ × ω) (s : σ) (i : ι) (is : List ι) :
  runSteps step s (i :: is)
    = ((runSteps step (step s i).1 is).1, (step s i).2 :: (runSteps step (step s i).1 is).2)
  := rfl

theorem runSteps_append (step : σ → ι → σ × ω) (s : σ) (is js : List ι) :
  runSteps step s (is ++ js)
    = ((runSteps step (runSteps step s is).1 js).1,
        (runSteps step s is).2 ++ (runSteps step (runSteps step s is).1 js).2)
  := by
  induction is generalizing s with
  | nil => rfl
  | cons i is ih => simp [ih]

theorem runSteps_concat (step : σ → ι → σ × ω) (s : σ) (is : List ι) (i : ι) :
  runSteps step s (is ++ [i])
    = ((step (runSteps step s is).1 i).1,
        (runSteps step s is).2 ++ [(step (runSteps step s is).1 i).2])
  := runSteps_append step s is [i]

/-- Every step is answered. -/
theorem length_runSteps (step : σ → ι → σ × ω) (s : σ) (is : List ι) :
  (runSteps step s is).2.length = is.length
  := by
  induction is generalizing s with
  | nil => rfl
  | cons i is ih => simp [ih]

/-- A step is answered by the state that the steps before it led to. -/
theorem getElem?_runSteps (step : σ → ι → σ × ω) (s : σ) (is : List ι) (k : Nat) :
  (runSteps step s is).2[k]?
    = is[k]?.map fun i => (step (runSteps step s (is.take k)).1 i).2
  := by
  induction is generalizing s k with
  | nil => rfl
  | cons i is ih =>
      cases k with
      | zero => rfl
      | succ k => simp [ih]

/-- A property that every step keeps holds after every history. -/
theorem runSteps_induction {step : σ → ι → σ × ω} {P : σ → Prop}
    (keep : ∀ s i, P s → P (step s i).1) {s : σ} (h : P s) (is : List ι) :
  P (runSteps step s is).1
  := by
  induction is generalizing s with
  | nil => exact h
  | cons i is ih => exact ih (keep s i h)

/-- A relation to a value that is updated along with every step holds after every history. -/
theorem runSteps_foldl {τ : Type _} {step : σ → ι → σ × ω} {next : τ → ι → τ}
    {P : σ → τ → Prop} (keep : ∀ s t i, P s t → P (step s i).1 (next t i))
    {s : σ} {t : τ} (h : P s t) (is : List ι) :
  P (runSteps step s is).1 (is.foldl next t)
  := by
  induction is generalizing s t with
  | nil => exact h
  | cons i is ih => exact ih (keep s t i h)

/-- What a step of some kind sets up, and every other step keeps up with its event, is told by the
events since the last step of that kind. -/
theorem runSteps_sinceLast {step : σ → ι → σ × ω} {p : ι → Bool} {P : σ → List (ι × ω) → Prop}
    (start : ∀ s i, p i = true → P (step s i).1 [])
    (keep : ∀ s past i, p i = false → P s past → P (step s i).1 (past ++ [(i, (step s i).2)]))
    {s : σ} (h : P s []) (is : List ι) :
  P (runSteps step s is).1 (sinceLast (fun e => p e.1) (is.zip (runSteps step s is).2))
  := by
  -- The history so far is kept in front of the steps that are still to come.
  have extend : ∀ (s : σ) (past : List (ι × ω)), P s (sinceLast (fun e => p e.1) past) →
      P (runSteps step s is).1
        (sinceLast (fun e => p e.1) (past ++ is.zip (runSteps step s is).2)) := by
    induction is with
    | nil =>
        intro s past h
        simpa using h
    | cons i is ih =>
        intro s past h
        have hnext : P (step s i).1
            (sinceLast (fun e => p e.1) (past ++ [(i, (step s i).2)])) := by
          rw [sinceLast_concat]
          cases hi : p i with
          | true => exact start s i hi
          | false => exact keep s _ i hi h
        simpa using ih _ _ hnext
  exact extend s [] h

/-- A relation between two states that every step keeps holds after every history. -/
theorem runSteps_rel {step : σ → ι → σ × ω} {R : σ → σ → Prop}
    (keep : ∀ s t i, R s t → R (step s i).1 (step t i).1) {s t : σ} (h : R s t)
    (is : List ι) :
  R (runSteps step s is).1 (runSteps step t is).1
  := by
  induction is generalizing s t with
  | nil => exact h
  | cons i is ih => exact ih (keep s t i h)

end Recompile
