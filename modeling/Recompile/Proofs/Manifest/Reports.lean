import Recompile.CommandLine.Run
import Recompile.Proofs.Session.Series
import Recompile.Proofs.Manifest.Changes

/-!
# Reports of changes

No module of a manifest is dirty before the first change, so those that are dirty after a series
of changes are the ones that the series touched, and the report of the series counts them. What it
tells about a file it would also tell if no other file had changed.
-/

namespace Recompile

/-! ### What building a session keeps -/

namespace Manifest

/-- Numbering a file, registering a new module and adding a dependency or an include keep a
property of sessions. -/
structure KeptByBuilding (P : Session → Prop) : Prop where
  intern : ∀ s p, P s → P (s.intern p).1
  register : ∀ s id name, P s → P (s.register (.fresh id name)).1
  addDep : ∀ s m dependency, P s → P (s.addDep m dependency).1
  addInclude : ∀ s module file, P s → P (s.addInclude module file)

variable {P : Session → Prop} {man : Manifest} {root : Path} {s s' : Session}

/-- Adding one file after another keeps what adding each of them keeps. -/
theorem KeptByBuilding.addEach (h : KeptByBuilding P)
    {add : Session → FileId → Session × Except Fault Unit}
    (hadd : ∀ s file, P s → P (add s file).1) (hs : P s) {ps : List Path}
    (hok : addEach root add s ps = .ok s') :
  P s'
  := by
  induction ps generalizing s with
  | nil =>
      cases hok
      apply hs
  | cons p ps ih =>
      obtain ⟨file, -, hok⟩ := bind_eq_ok_iff.mp hok
      obtain ⟨-, -, hok⟩ := bind_eq_ok_iff.mp hok
      apply ih _ hok
      apply hadd
      apply h.intern s _ hs

/-- What building keeps is kept when all modules are registered. -/
theorem KeptByBuilding.registerAll (h : KeptByBuilding P) (hs : P s) {es : List ManifestEntry}
    {ms : List CompiledModule} (hok : registerAll root s es = .ok (ms, s')) :
  P s'
  := by
  induction es generalizing s ms with
  | nil =>
      cases hok
      apply hs
  | cons e es ih =>
      obtain ⟨id, -, hok⟩ := bind_eq_ok_iff.mp hok
      obtain ⟨-, -, hok⟩ := bind_eq_ok_iff.mp hok
      obtain ⟨⟨ms', s₃⟩, hrest, hok⟩ := bind_eq_ok_iff.mp hok
      cases hok
      apply ih _ hrest
      apply h.register
      apply h.intern s _ hs

/-- It is kept when all imports and includes are added. -/
theorem KeptByBuilding.connectAll (h : KeptByBuilding P) (hs : P s)
    {rest : List (ManifestEntry × CompiledModule)} (hok : connectAll root s rest = .ok s') :
  P s'
  := by
  induction rest generalizing s with
  | nil =>
      cases hok
      apply hs
  | cons em rest ih =>
      obtain ⟨e, m⟩ := em
      obtain ⟨s₁, himports, hok⟩ := bind_eq_ok_iff.mp hok
      obtain ⟨s₂, hincludes, hok⟩ := bind_eq_ok_iff.mp hok
      rw [addImports_eq] at himports
      rw [addIncludes_eq] at hincludes
      apply ih _ hok
      apply h.addEach _ _ hincludes
      · intro s file hs
        apply h.addDep
        apply h.addInclude _ _ _ hs
      apply h.addEach _ hs himports
      intro s file hs
      apply h.addDep _ _ _ hs

/-- What holds of a new session and is kept by building holds of the session of a manifest. -/
theorem KeptByBuilding.buildSession (h : KeptByBuilding P) (hnew : P (.new man.config))
    (hok : man.buildSession root = .ok s) :
  P s
  := by
  obtain ⟨⟨ms, s₁⟩, hregister, hconnect⟩ := bind_eq_ok_iff.mp hok
  apply h.connectAll _ hconnect
  apply h.registerAll hnew hregister

end Manifest

namespace Session

variable {s : Session} {root : Path} {number : Path → FileId}

/-! ### Sessions without dirty modules -/

/-- Each module is in the slot of its own number, and none is marked. -/
structure Clean (s : Session) : Prop where
  placed : s.registry.Placed
  unmarked : ∀ id m, s.registry.get id = some m → m.dirty = false

/-- A clean session has no dirty modules. -/
theorem Clean.dirtyModules_eq (h : s.Clean) :
  s.dirtyModules = []
  := by
  rw [List.eq_nil_iff_forall_not_mem]
  intro x hx
  obtain ⟨-, m, hm, hdirty⟩ := (mem_dirtyModules h.placed).mp hx
  rw [h.unmarked x m hm] at hdirty
  cases hdirty

theorem clean_new (config : Config) :
  (new config).Clean
  where
  placed := Registry.placed_empty
  unmarked id m h := by
    cases Registry.get_empty.symm.trans h

theorem Clean.congr {s' : Session} (h : s.Clean) (hregistry : s'.registry = s.registry) :
  s'.Clean
  where
  placed := by
    rw [hregistry]
    apply h.placed
  unmarked := by
    rw [hregistry]
    apply h.unmarked

/-- A new module is not marked, so registering it keeps a session clean. -/
theorem Clean.register (h : s.Clean) (id : FileId) (name : String) :
  (s.register (.fresh id name)).1.Clean
  where
  placed := placed_register h.placed _
  unmarked x m hm := by
    by_cases hid : (CompiledModule.fresh id name).id.isKnown
    · rw [register_eq_ok hid, Registry.get_withModule hid] at hm
      split_ifs at hm
      · obtain rfl := Option.some.inj hm
        rfl
      · apply h.unmarked x m hm
    · rw [register_eq_error hid] at hm
      apply h.unmarked x m hm

/-- Building keeps a session clean. -/
theorem keptByBuilding_clean :
  Manifest.KeptByBuilding Clean
  where
  intern s p h := by
    obtain ⟨interner, hs⟩ := intern_eq s p
    apply h.congr
    rw [hs]
  register s id name h := h.register id name
  addDep s m dependency h := by
    apply h.congr
    rw [fst_addDep]
    split_ifs <;> rfl
  addInclude s module file h := h.congr rfl

/-! ### Changes of files given by their paths -/

/-- The changes of files that the session knows touch what each would touch alone. -/
theorem changePaths_eq (hs : s.registry.Placed) {files : List Path}
    (hfiles : ∀ f ∈ files, s.lookup root f = .ok (number f)) :
  s.changePaths root files
    = (s.afterChanges (files.map number),
        .ok (files.map fun f => ⟨number f, (s.invalidate (number f)).1⟩))
  := by
  induction files generalizing s with
  | nil =>
      rw [changePaths, List.map_nil, afterChanges_nil]
      rfl
  | cons f files ih =>
      have h := marks_invalidate hs (number f)
      have hinterner : (s.invalidate (number f)).2.interner = s.interner := by rw [h.rest]
      have ih' := ih (h.placed hs) (by
        intro f' hf'
        rw [lookup, hinterner]
        apply hfiles f' (List.mem_cons_of_mem _ hf'))
      simp only [h.fst_invalidate_eq hs] at ih'
      rw [changePaths, hfiles f List.mem_cons_self]
      simp only [ih', List.map_cons, afterChanges_cons hs]
      rfl

/-- The report of a series of changes, file by file, and the number of modules in it. -/
theorem report_dirty_eq (h : s.Clean) {files : List Path}
    (hfiles : ∀ f ∈ files, s.lookup root f = .ok (number f)) :
  let changes : List Change := files.map fun f => ⟨number f, (s.invalidate (number f)).1⟩
  Invocation.report root s (.dirty files)
    = .ok (.text (unlines (changes.flatMap (s.changeLines root)
        ++ [toString (changes.flatMap (·.dirty)).dedup.length ++ " modules need recompiling"])))
  := by
  intro changes
  have htouched : s.touched (files.map number) = changes.flatMap (·.dirty) := by
    rw [touched, List.flatMap_map, List.flatMap_map]
  -- Lines are told by the table of files, which a change leaves alone.
  have hlines : (s.afterChanges (files.map number)).changeLines root = s.changeLines root := rfl
  rw [Invocation.report, changePaths_eq h.placed hfiles]
  simp only [dirtyReport, dirtyLines, hlines]
  rw [length_dirtyModules_afterChanges h.placed h.dirtyModules_eq, htouched]

end Session

end Recompile
