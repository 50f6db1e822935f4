import Recompile.Proofs.Session.Reported

/-!
# Owners and the log

The first module that includes a file owns it up to the next reset, and every inclusion is
reported to the log, which outlives the reset. Whatever happens in a session, the owner of a file
is the module of the first inclusion that the log has received since the last reset
(`firstIncluder`), and a file that is a loaded module belongs to itself.
-/

namespace Recompile

variable {records : List EdgeRecord} {file : FileId}

/-- The module that is first in a log to include a file. -/
def firstIncluder (records : List EdgeRecord) (file : FileId) : Option FileId :=
  (records.find? fun r => r.kind = .inclusion ∧ r.dependency = file).map (·.dependent)

/-- The first includer in a log is the first one in its first part, if there is one there. -/
theorem firstIncluder_append (records' : List EdgeRecord) :
  firstIncluder (records ++ records') file
    = (firstIncluder records file).or (firstIncluder records' file)
  := by
  rw [firstIncluder, List.find?_append, Option.map_or]
  rfl

theorem firstIncluder_inclusion (module included : FileId) :
  firstIncluder [⟨module, included, .inclusion⟩] file
    = if file = included then some module else none
  := by
  by_cases h : included = file
  · simp [firstIncluder, h]
  · simp [firstIncluder, h, Ne.symm h]

namespace Session

variable {s : Session} {n : Nat} {i : Step}

/-! ### The log since the last reset -/

/-- The records since the last reset, once a step has been taken. -/
def noteReport (records : List EdgeRecord) : Step → List EdgeRecord
  | .reset => []
  | i => records ++ i.report.toList

theorem noteReport_of_ne (hi : i ≠ .reset) :
  noteReport records i = records ++ i.report.toList
  := by
  cases i with
  | reset => contradiction
  | _ => rfl

/-- The records after the last reset can be noted step by step. -/
theorem recordsAfter_eq (hkeep : ∃ log, s.store = .keeping log) (hs : s.registry.Placed)
    (hn : n ≤ s.store.records.length) (steps : List Step) :
  s.recordsAfter n steps = steps.foldl noteReport (s.store.records.drop n)
  := by
  induction steps generalizing s n with
  | nil => rfl
  | cons i is ih =>
      obtain ⟨hkeep', hrecords⟩ := records_step hkeep hs i
      rw [recordsAfter, List.foldl_cons]
      by_cases hi : i = .reset
      · subst hi
        apply (ih hkeep' (placed_step hs .reset) (Nat.le_refl _)).trans
        rw [List.drop_length, noteReport]
      · -- The log only grows, so the records since the last reset stay where they are.
        rw [startOver_of_ne hi, noteReport_of_ne hi, ih hkeep' (placed_step hs i), hrecords,
          List.drop_append_of_le_length hn]
        rw [hrecords, List.length_append]
        apply Nat.le_add_right_of_le hn

theorem sinceReset_eq (hkeep : ∃ log, s.store = .keeping log) (hs : s.registry.Placed)
    (steps : List Step) :
  s.sinceReset steps = steps.foldl noteReport []
  := by
  rw [sinceReset, recordsAfter_eq hkeep hs (Nat.le_refl _), List.drop_length]

/-! ### The owners -/

/-- Only inclusions and a reset change who owns what. -/
theorem ownership_step (hs : s.registry.Placed) (hreset : i ≠ .reset)
    (hinclude : ∀ module file, i ≠ .addInclude module file) :
  (s.step i).1.ownership = s.ownership
  := by
  have aside := keeps_step s i
  cases i with
  | reset => contradiction
  | addInclude module file => cases hinclude module file rfl
  | register m =>
      obtain ⟨registry, h⟩ := register_eq s m
      rw [fst_step_register, h]
  | registerLoaded importer file =>
      obtain ⟨registry, h⟩ := registerLoaded_eq s importer file
      rw [fst_step_registerLoaded, h]
  | addDep m dependency =>
      rw [fst_step_addDep, fst_addDep]
      split_ifs <;> rfl
  | invalidate id => rw [fst_step_invalidate, (marks_invalidate hs id).rest]
  | close | dependentsOf | dependenciesOf | markDirty | markClients | clearDirty => rfl
  | _ => apply (aside rfl).ownership

/-- Apart from a reset, a step leaves every owner in place, and a file without one gets the module
that the step reports to include it. -/
theorem owner_step (hs : s.registry.Placed) (hi : i ≠ .reset) (file : FileId) :
  (s.step i).1.ownership.owner file
    = (s.ownership.owner file).or (firstIncluder i.report.toList file)
  := by
  by_cases hinclude : ∃ module included, i = .addInclude module included
  · obtain ⟨module, included, rfl⟩ := hinclude
    rw [step, addInclude, Ownership.owner_record, Step.report, Option.toList_some,
      firstIncluder_inclusion]
    by_cases hfile : file = included
    · subst hfile
      rw [if_pos rfl, if_pos rfl]
      cases s.ownership.owner file with
      | none => rfl
      | some owner => rfl
    · rw [if_neg hfile, if_neg hfile, Option.or_none]
  · rw [ownership_step hs hi fun module included h => hinclude ⟨module, included, h⟩]
    have hreport : firstIncluder i.report.toList file = none := by
      cases i with
      | addInclude module included => cases hinclude ⟨module, included, rfl⟩
      | addDep m dependency =>
          rw [Step.report]
          split_ifs <;> rfl
      | _ => rfl
    rw [hreport, Option.or_none]

/-- The session reports to a log, and its owners are the first includers among some records. -/
structure OwnsAsIn (s : Session) (records : List EdgeRecord) : Prop where
  keeping : ∃ log, s.store = .keeping log
  placed : s.registry.Placed
  owner : ∀ file, s.ownership.owner file = firstIncluder records file

/-- A step that includes a file for the first time settles its owner, and a reset forgets all
owners. -/
theorem OwnsAsIn.step (h : s.OwnsAsIn records) (i : Step) :
  (s.step i).1.OwnsAsIn (noteReport records i)
  where
  keeping := (records_step h.keeping h.placed i).1
  placed := placed_step h.placed i
  owner := by
    intro file
    by_cases hi : i = .reset
    · subst hi
      rfl
    · rw [owner_step h.placed hi, h.owner, noteReport_of_ne hi, firstIncluder_append]

/-- After any history the owners are the first includers among the records that it noted. -/
theorem OwnsAsIn.run (h : s.OwnsAsIn records) (steps : List Step) :
  (s.run steps).1.OwnsAsIn (steps.foldl noteReport records)
  := runSteps_foldl (fun _ _ i h => h.step i) h steps

/-- In every reachable state a file belongs to itself if it is a loaded module, else to the module
that was first to include it in the log since the last reset, and else to no file. Every inclusion
is reported to the log, by one record. Nothing but an inclusion and a reset changes the owners, and
nothing but a reset changes the owner of a file that has one. -/
theorem run_parent_is_first_includer (config : Config) (hooks : Hooks) (log : Array EdgeRecord)
    (steps : List Step) :
  let start : Session := { new config with hooks, store := .keeping log }
  let s := (start.run steps).1
  (∀ id, s.step (.parent id) = (s, .file (some
      (if s.registry.contains id then id
        else (firstIncluder (start.sinceReset steps) id).getD .unknown))))
    ∧ (∀ module file, (s.step (.addInclude module file)).1.store.records
        = s.store.records ++ [⟨module, file, .inclusion⟩])
    ∧ (∀ i, i ≠ .reset → (∀ module file, i ≠ .addInclude module file) →
        (s.step i).1.ownership = s.ownership)
    ∧ (∀ i file owner, i ≠ .reset → s.ownership.owner file = some owner →
        (s.step i).1.ownership.owner file = some owner)
  := by
  intro start s
  have hstart : start.registry.Placed := Registry.placed_empty
  have howns : s.OwnsAsIn (start.sinceReset steps) := by
    rw [sinceReset_eq ⟨log, rfl⟩ hstart]
    apply OwnsAsIn.run
    exact ⟨⟨log, rfl⟩, hstart, fun _ => rfl⟩
  constructor
  · intro id
    rw [step, parent, howns.owner]
  constructor
  · intro module file
    apply (records_step howns.keeping howns.placed _).2
  constructor
  · intro i
    apply ownership_step howns.placed
  · intro i file owner hi howner
    rw [owner_step howns.placed hi, howner]
    rfl

end Session

end Recompile
