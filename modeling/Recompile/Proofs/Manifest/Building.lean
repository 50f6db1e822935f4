import Recompile.Manifest.Session
import Recompile.Proofs.Session.Contents

/-!
# Building the session of a manifest

Building the session of a manifest numbers, registers and connects in three loops, and each tells
the session one thing after another. None of them is refused unless the numbers run out, and in
the end the session was told what the manifest declares, and nothing else
(`buildSession_eq_ok_iff`).
-/

namespace Recompile

open Recompile.Path (Fit)
open Interner (number)

/-! ### What a manifest declares -/

namespace ManifestEntry

/-- What a module imports and includes. -/
def dependencies (e : ManifestEntry) : List Path := e.imports ++ e.includes

/-- The links from a module to what it imports and includes. -/
def links (root : Path) (e : ManifestEntry) : List (Path × Path) :=
  e.dependencies.map fun d => (root.join e.path, root.join d)

end ManifestEntry

namespace Manifest

/-- The paths a manifest declares: its modules, then what they import and include. -/
def files (man : Manifest) (root : Path) : List Path :=
  man.modules.map (fun e => root.join e.path)
    ++ man.modules.flatMap fun e => e.dependencies.map root.join

/-- The links a manifest declares. -/
def links (man : Manifest) (root : Path) : List (Path × Path) :=
  man.modules.flatMap fun e => e.links root

variable {man : Manifest} {root p q d : Path} {e : ManifestEntry}

/-- A link leads from the module of an entry to something it imports or includes. -/
theorem mem_links :
  (p, q) ∈ man.links root
    ↔ ∃ e ∈ man.modules, root.join e.path = p ∧ ∃ d ∈ e.dependencies, root.join d = q
  := by
  simp only [links, ManifestEntry.links, List.mem_flatMap, List.mem_map, Prod.mk.injEq]
  constructor
  · rintro ⟨e, he, d, hd, hp, hq⟩
    use e, he, hp, d, hd
  · rintro ⟨e, he, hp, d, hd, hq⟩
    use e, he, d, hd, hp

/-- All paths are read from the root. -/
theorem exists_join_of_mem_files (hp : p ∈ man.files root) :
  ∃ d, p = root.join d
  := by
  simp only [files, List.mem_append, List.mem_map, List.mem_flatMap] at hp
  rcases hp with ⟨e, -, rfl⟩ | ⟨e, -, d, -, rfl⟩
  · use e.path
  · use d

/-- The modules are among the files. -/
theorem mem_files_of_mem_modules (he : e ∈ man.modules) :
  root.join e.path ∈ man.files root
  := by
  apply List.mem_append_left
  apply List.mem_map_of_mem he

/-- So is what they import and include. -/
theorem mem_files_of_mem_dependencies (he : e ∈ man.modules) (hd : d ∈ e.dependencies) :
  root.join d ∈ man.files root
  := by
  apply List.mem_append_right
  apply List.mem_flatMap.mpr
  use e, he, List.mem_map_of_mem hd

end Manifest

/-! ### What a manifest tells -/

namespace Contents

/-- What is told about a file, by its path and then by its number. -/
def about (files : List Path) (root : Path) (told : FileId → Contents) (d : Path) : Contents :=
  { files := [root.join d] } ++ told (number files (root.join d))

/-- What is told about an import of a module. -/
def imported (m : CompiledModule) (file : FileId) : Contents where
  dependencies := [(m.id, file)]

/-- What is told about an include of a module. -/
def included (m : CompiledModule) (file : FileId) : Contents where
  dependencies := [(m.id, file)]
  includes := [(m.id, file)]

end Contents

namespace ManifestEntry

/-- The module of an entry, among the files of a project. -/
def module (files : List Path) (root : Path) (e : ManifestEntry) : CompiledModule :=
  .fresh (number files (root.join e.path)) e.displayName

/-- What an entry tells about its module. -/
def declared (files : List Path) (root : Path) (e : ManifestEntry) : Contents where
  files := [root.join e.path]
  modules := [e.module files root]

/-- What an entry tells about the imports and includes of its module. -/
def connected (files : List Path) (root : Path) (e : ManifestEntry) : Contents :=
  .each (e.imports.map (.about files root (.imported (e.module files root))))
    ++ .each (e.includes.map (.about files root (.included (e.module files root))))

end ManifestEntry

namespace Manifest

/-- What a manifest tells about its modules, and then about what these import and include. -/
def contents (man : Manifest) (root : Path) : Contents :=
  .each (man.modules.map (·.declared (man.files root) root))
    ++ .each (man.modules.map (·.connected (man.files root) root))

/-- The session that was told what a manifest tells, and nothing else. -/
def built (man : Manifest) (root : Path) : Session := (man.contents root).session man.config

/-- A computation in two parts has a result if both parts have one. -/
theorem bind_eq_ok_iff {ε α β : Type} {x : Except ε α} {f : α → Except ε β} {b : β} :
  (x >>= f) = .ok b ↔ ∃ a, x = .ok a ∧ f a = .ok b
  := by
  cases x with
  | error cause => simp [bind, Except.bind]
  | ok a => simp [bind, Except.bind]

variable {root : Path} {config : Config} {c : Contents} {files : List Path} {s : Session}
  {m : CompiledModule}

/-! ### Registering the modules -/

/-- The first module is refused if its path is one too many, and else registered before the others.
-/
theorem registerAll_cons (e : ManifestEntry) (es : List ManifestEntry) (hfit : Fit c.files)
    (hfiles : (c ++ e.declared files root).files <+: files) :
  registerAll root (c.session config) (e :: es)
    = if Fit (c ++ e.declared files root).files then
        registerAll root ((c ++ e.declared files root).session config) es >>= fun r =>
          .ok (e.module files root :: r.1, r.2)
      else .error (.fileLimit (root.join e.path))
  := by
  rw [registerAll, Contents.intern_session hfit hfiles]
  split_ifs with hroom h h
  · have hknown : (e.module files root).id.isKnown :=
      Interner.isKnown_number hroom hfiles (List.mem_append_right _ (List.mem_singleton_self _))
    have hregister : ((c ++ { files := [root.join e.path] }).session config).register
        (.fresh (number files (root.join e.path)) e.displayName) = _ :=
      Contents.register_session hknown
    simp only [bind, Except.bind, hregister, Contents.append_assoc]
    rfl
  · cases h hroom
  · cases hroom h
  · rfl

/-- Registering the modules is refused only when the numbers run out. -/
theorem registerAll_eq_ok_iff (es : List ManifestEntry) (hfit : Fit c.files)
    (hfiles : (c ++ .each (es.map (·.declared files root))).files <+: files)
    {r : List CompiledModule × Session} :
  registerAll root (c.session config) es = .ok r
    ↔ Fit (c ++ .each (es.map (·.declared files root))).files
      ∧ r = (es.map (·.module files root),
        (c ++ .each (es.map (·.declared files root))).session config)
  := by
  induction es generalizing c r with
  | nil =>
      rw [List.map_nil, Contents.append_each_nil]
      simp [registerAll, hfit, eq_comm]
  | cons e es ih =>
      rw [List.map_cons, Contents.each_cons, ← Contents.append_assoc] at hfiles ⊢
      rw [registerAll_cons e es hfit ((Contents.prefix_append _ _).trans hfiles)]
      split_ifs with hroom
      · rw [bind_eq_ok_iff]
        constructor
        · rintro ⟨r', hr', h⟩
          cases h
          obtain ⟨hall, rfl⟩ := (ih hroom hfiles).mp hr'
          use hall
          rfl
        · rintro ⟨hall, rfl⟩
          exact ⟨_, (ih hroom hfiles).mpr ⟨hall, rfl⟩, rfl⟩
      · constructor
        · intro h
          cases h
        · rintro ⟨hall, -⟩
          cases hroom (Contents.fit_of_append hall)

/-! ### Connecting the modules -/

/-- Numbers paths one after another and adds each file. -/
def addEach (root : Path) (add : Session → FileId → Session × Except Fault Unit) (s : Session) :
    List Path → Except Fault Session
  | [] => .ok s
  | p :: ps => do
    let (s, id) := s.intern (root.join p)
    let (s, added) := add s (← id)
    let _ ← added
    addEach root add s ps

/-- Imports are added one after another, each with its dependency. -/
theorem addImports_eq (root : Path) (m : CompiledModule) (s : Session) (ps : List Path) :
  addImports root m s ps = addEach root (fun s file => s.addDep m file) s ps
  := by
  induction ps generalizing s with
  | nil => rfl
  | cons p ps ih => simp only [addImports, addEach, ih]

/-- Includes are added one after another, each with its owner and then its dependency. -/
theorem addIncludes_eq (root : Path) (m : CompiledModule) (s : Session) (ps : List Path) :
  addIncludes root m s ps
    = addEach root (fun s file => (s.addInclude m.id file).addDep m file) s ps
  := by
  induction ps generalizing s with
  | nil => rfl
  | cons p ps ih => simp only [addIncludes, addEach, ih]

section

variable {add : Session → FileId → Session × Except Fault Unit} {told : FileId → Contents}
  (hadd : ∀ (c : Contents) id, id.isKnown →
    add (c.session config) id = ((c ++ told id).session config, .ok ()))
  (htold : ∀ id, (told id).files = [])

include hadd htold

theorem addEach_cons (d : Path) (ds : List Path) (hfit : Fit c.files)
    (hfiles : (c ++ .about files root told d).files <+: files) :
  addEach root add (c.session config) (d :: ds)
    = if Fit (c ++ .about files root told d).files then
        addEach root add ((c ++ .about files root told d).session config) ds
      else .error (.fileLimit (root.join d))
  := by
  have hfirst : (c ++ .about files root told d).files
      = (c ++ { files := [root.join d] }).files := by
    simp [Contents.append_def, Contents.about, htold]
  rw [hfirst] at hfiles ⊢
  rw [addEach, Contents.intern_session hfit hfiles]
  split_ifs with hroom
  · have hknown : (number files (root.join d)).isKnown :=
      Interner.isKnown_number hroom hfiles (List.mem_append_right _ (List.mem_singleton_self _))
    simp only [bind, Except.bind, hadd _ _ hknown, Contents.append_assoc]
    rfl
  · rfl

/-- If adding one file is not refused, adding one file after another is refused only when the
numbers run out. -/
theorem addEach_eq_ok_iff (ds : List Path) (hfit : Fit c.files)
    (hfiles : (c ++ .each (ds.map (.about files root told))).files <+: files) :
  addEach root add (c.session config) ds = .ok s
    ↔ Fit (c ++ .each (ds.map (.about files root told))).files
      ∧ s = (c ++ .each (ds.map (.about files root told))).session config
  := by
  induction ds generalizing c with
  | nil =>
      rw [List.map_nil, Contents.append_each_nil]
      simp [addEach, hfit, eq_comm]
  | cons d ds ih =>
      rw [List.map_cons, Contents.each_cons, ← Contents.append_assoc] at hfiles ⊢
      rw [addEach_cons hadd htold d ds hfit ((Contents.prefix_append _ _).trans hfiles)]
      split_ifs with hroom
      · apply ih hroom hfiles
      · constructor
        · intro h
          cases h
        · rintro ⟨hall, -⟩
          cases hroom (Contents.fit_of_append hall)

end

/-- Adding the imports of a module succeeds exactly if there are numbers for them all, and tells the
session of each. -/
theorem addImports_eq_ok_iff (hm : m.id = m.origin) (hknown : m.id.isKnown) (ds : List Path)
    (hfit : Fit c.files)
    (hfiles : (c ++ .each (ds.map (.about files root (.imported m)))).files <+: files) :
  addImports root m (c.session config) ds = .ok s
    ↔ Fit (c ++ .each (ds.map (.about files root (.imported m)))).files
      ∧ s = (c ++ .each (ds.map (.about files root (.imported m)))).session config
  := by
  rw [addImports_eq]
  apply addEach_eq_ok_iff _ (fun _ => rfl) ds hfit hfiles
  intro c id hid
  apply Contents.addDep_session hm hknown hid

/-- The same holds of its includes. -/
theorem addIncludes_eq_ok_iff (hm : m.id = m.origin) (hknown : m.id.isKnown) (ds : List Path)
    (hfit : Fit c.files)
    (hfiles : (c ++ .each (ds.map (.about files root (.included m)))).files <+: files) :
  addIncludes root m (c.session config) ds = .ok s
    ↔ Fit (c ++ .each (ds.map (.about files root (.included m)))).files
      ∧ s = (c ++ .each (ds.map (.about files root (.included m)))).session config
  := by
  rw [addIncludes_eq]
  apply addEach_eq_ok_iff _ (fun _ => rfl) ds hfit hfiles
  intro c id hid
  rw [Contents.addInclude_session, Contents.addDep_session hm hknown hid, Contents.append_assoc]
  rfl

/-- And it holds of its imports and includes together. -/
theorem connect_eq_ok_iff (e : ManifestEntry) (hfit : Fit c.files)
    (hmodule : root.join e.path ∈ c.files)
    (hfiles : (c ++ e.connected files root).files <+: files) :
  (addImports root (e.module files root) (c.session config) e.imports
      >>= fun s => addIncludes root (e.module files root) s e.includes) = .ok s
    ↔ Fit (c ++ e.connected files root).files
      ∧ s = (c ++ e.connected files root).session config
  := by
  have hknown : (e.module files root).id.isKnown :=
    Interner.isKnown_number hfit ((Contents.prefix_append _ _).trans hfiles) hmodule
  rw [ManifestEntry.connected, ← Contents.append_assoc] at hfiles ⊢
  have hprefix := (Contents.prefix_append _ _).trans hfiles
  simp only [bind_eq_ok_iff, addImports_eq_ok_iff rfl hknown _ hfit hprefix]
  constructor
  · rintro ⟨s₁, ⟨hroom, rfl⟩, h⟩
    apply (addIncludes_eq_ok_iff rfl hknown _ hroom hfiles).mp h
  · rintro ⟨hall, rfl⟩
    have hroom := Contents.fit_of_append hall
    exact ⟨_, ⟨hroom, rfl⟩, (addIncludes_eq_ok_iff rfl hknown _ hroom hfiles).mpr ⟨hall, rfl⟩⟩

/-- Connecting the modules is refused only when the numbers run out. -/
theorem connectAll_eq_ok_iff (es : List ManifestEntry) (hfit : Fit c.files)
    (hmodules : ∀ e ∈ es, root.join e.path ∈ c.files)
    (hfiles : (c ++ .each (es.map (·.connected files root))).files <+: files) :
  connectAll root (c.session config) (es.map fun e => (e, e.module files root)) = .ok s
    ↔ Fit (c ++ .each (es.map (·.connected files root))).files
      ∧ s = (c ++ .each (es.map (·.connected files root))).session config
  := by
  induction es generalizing c with
  | nil =>
      rw [List.map_nil, List.map_nil, Contents.append_each_nil]
      simp [connectAll, hfit, eq_comm]
  | cons e es ih =>
      have hmodule := hmodules e List.mem_cons_self
      have hmodules' : ∀ e' ∈ es, root.join e'.path ∈ (c ++ e.connected files root).files := by
        intro e' he'
        apply List.mem_append_left
        apply hmodules e' (List.mem_cons_of_mem _ he')
      rw [List.map_cons, Contents.each_cons, ← Contents.append_assoc] at hfiles
      have hprefix := (Contents.prefix_append _ _).trans hfiles
      rw [List.map_cons, List.map_cons, Contents.each_cons, ← Contents.append_assoc, connectAll,
        ← bind_assoc]
      simp only [bind_eq_ok_iff (x := _ >>= _), connect_eq_ok_iff e hfit hmodule hprefix]
      constructor
      · rintro ⟨s₁, ⟨hroom, rfl⟩, h⟩
        apply (ih hroom hmodules' hfiles).mp h
      · rintro ⟨hall, rfl⟩
        have hroom := Contents.fit_of_append hall
        exact ⟨_, ⟨hroom, rfl⟩, (ih hroom hmodules' hfiles).mpr ⟨hall, rfl⟩⟩

/-! ### The session of a manifest -/

theorem each_declared (es : List ManifestEntry) :
  Contents.each (es.map (·.declared files root)) = {
    files := es.map fun e => root.join e.path
    modules := es.map (·.module files root) }
  := by
  simp [Contents.each, ManifestEntry.declared, List.flatMap_map, ← List.map_eq_flatMap]

theorem connected_eq (e : ManifestEntry) :
  e.connected files root = {
    files := e.dependencies.map root.join
    dependencies := (e.links root).map fun l => (number files l.1, number files l.2)
    includes := e.includes.map fun d =>
      (number files (root.join e.path), number files (root.join d)) }
  := by
  simp [ManifestEntry.connected, ManifestEntry.dependencies, ManifestEntry.links,
    ManifestEntry.module, CompiledModule.fresh, Contents.append_def, Contents.each,
    Contents.about, Contents.imported, Contents.included, List.flatMap_map,
    ← List.map_eq_flatMap, Function.comp_def]

/-- What a manifest tells, list by list. -/
theorem contents_eq (man : Manifest) (root : Path) :
  man.contents root = {
    files := man.files root
    modules := man.modules.map (·.module (man.files root) root)
    dependencies := (man.links root).map fun l =>
      (number (man.files root) l.1, number (man.files root) l.2)
    includes := man.modules.flatMap fun e => e.includes.map fun d =>
      (number (man.files root) (root.join e.path), number (man.files root) (root.join d)) }
  := by
  simp only [contents, each_declared, connected_eq]
  simp [Contents.append_def, Contents.each, List.flatMap_map, List.map_flatMap, Manifest.files,
    links]

/-- The session of a manifest is refused only when the numbers run out, and has been told what
the manifest declares. -/
theorem buildSession_eq_ok_iff {man : Manifest} :
  man.buildSession root = .ok s
    ↔ Fit (man.files root) ∧ s = man.built root
  := by
  have hpaths : (man.contents root).files = man.files root := by rw [contents_eq]
  have hfiles : (man.contents root).files <+: man.files root := by
    use []
    rw [hpaths, List.append_nil]
  have hprefix := (Contents.prefix_append _ _).trans hfiles
  have hregister (r : List CompiledModule × Session) :
      registerAll root (({} : Contents).session man.config) man.modules = .ok r ↔ _ :=
    registerAll_eq_ok_iff man.modules (Nat.zero_le _) hprefix
  have hmodules : ∀ e ∈ man.modules, root.join e.path
      ∈ (Contents.each (man.modules.map (·.declared (man.files root) root))).files := by
    intro e he
    rw [each_declared]
    apply List.mem_map_of_mem he
  have hconnect (hroom : Fit _) : connectAll root (Contents.session man.config _) _ = .ok s ↔ _ :=
    connectAll_eq_ok_iff man.modules hroom hmodules hfiles
  rw [List.map_prod_left_eq_zip] at hconnect
  rw [buildSession, bind_eq_ok_iff, Contents.new_eq_session, ← hpaths]
  constructor
  · rintro ⟨r, hr, h⟩
    obtain ⟨hroom, rfl⟩ := (hregister r).mp hr
    apply (hconnect hroom).mp h
  · intro h
    have hroom := Contents.fit_of_append h.1
    exact ⟨_, (hregister _).mpr ⟨hroom, rfl⟩, (hconnect hroom).mpr h⟩

end Manifest

end Recompile
