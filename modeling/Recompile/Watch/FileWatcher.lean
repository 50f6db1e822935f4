import Recompile.FileTree
import Recompile.Watch.Event

/-!
# File watchers

A watcher watches single files, directories, and directories with all that is below them, new
directories included. A change of the tree makes it give notice of what it watches. What is
watched is a place, whatever becomes of its path; a place that is watched under several paths is
known by the last of them.
-/

namespace Recompile

/-- A change of a file tree. -/
inductive TreeChange where
  | create (path : Path)
  | append (path : Path)
  | remove (path : Path)
  | rename (source target : Path)

/-- A file or directory that is watched, under the path it is watched by. -/
structure Watch where
  path : Path
  place : Place
  /-- Directories made below it are watched, too. -/
  recursive : Bool
deriving DecidableEq, Repr

/-- A file watcher. -/
structure FileWatcher where
  root : Path
  /-- The paths that were asked for. -/
  requested : List Path := []
  watches : List Watch := []
  /-- The places that are watched, with the paths they are known by. -/
  live : List (Place × Path) := []

namespace FileWatcher

/-- The steps of one path are the first steps of another. -/
def startsWith (p base : Path) : Bool := base.components.isPrefixOf p.components

/-! ### Watching -/

/-- Adds a watch, in place of one by the same path. -/
def add (w : FileWatcher) (watch : Watch) : FileWatcher :=
  { w with
    watches := w.watches.filter (fun v => ¬v.path.Same watch.path) ++ [watch]
    live := w.live.filter (fun l => l.1 ≠ watch.place) ++ [(watch.place, watch.path)] }

/-- Watches a directory and the directories below it. -/
def addBelow (w : FileWatcher) (t : FileTree) (path : Path) (place : Place) : FileWatcher :=
  (t.directoriesBelow place).foldl
    (fun w p =>
      let below := (p.drop place.length).foldl (fun path name => path.join ⟨name⟩) path
      w.add ⟨below, p, true⟩)
    (w.add ⟨path, place, true⟩)

/-- Notes that a path was asked for. -/
def request (w : FileWatcher) (path : Path) : FileWatcher :=
  { w with requested := w.requested.filter (fun p => ¬p.Same path) ++ [path] }

/-- Watches a directory with all that is below it. There must be something at the path. -/
def watchDirectory (w : FileWatcher) (t : FileTree) (path : Path) : Option FileWatcher :=
  match t.resolve [] path with
  | .error _ => none
  | .ok place =>
    match t.find place with
    | some .directory => some ((w.addBelow t path place).request path)
    | _ => some ((w.add ⟨path, place, false⟩).request path)

/-- Watches a single file, or a directory without what is further below. There must be something
at the path. -/
def watchFile (w : FileWatcher) (t : FileTree) (path : Path) : Option FileWatcher :=
  match t.resolve [] path with
  | .error _ => none
  | .ok place => some ((w.add ⟨path, place, false⟩).request path)

/-- Whether a path was asked for. -/
def isWatching (w : FileWatcher) (path : Path) : Bool :=
  w.requested.any fun p => p.Same path

/-! ### Ceasing to watch -/

/-- Forgets the watches at the places that are known by the given paths, and the places. -/
def drop (w : FileWatcher) (known : Path → Bool) : FileWatcher :=
  let dropped := w.live.filter fun l => known l.2
  { w with
    watches := w.watches.filter fun v => !dropped.any fun l => v.path.Same l.2
    live := w.live.filter fun l => !known l.2 }

/-- Stops a watch, and those below it if `below`. Its place must still be watched. -/
def stop (w : FileWatcher) (watch : Watch) (below : Bool) : Option FileWatcher :=
  if w.live.any fun l => l.1 = watch.place then
    let w := { w with live := w.live.filter fun l => l.1 ≠ watch.place }
    some (if below then w.drop fun p => startsWith p watch.path else w)
  else none

/-- Removes a watch by its path and stops it. -/
def release (w : FileWatcher) (path : Path) (below : Bool) : FileWatcher × Bool :=
  match w.watches.find? fun v => v.path.Same path with
  | none => (w, false)
  | some watch =>
    let w := { w with watches := w.watches.filter fun v => ¬v.path.Same path }
    match w.stop watch (below || watch.recursive) with
    | some w => (w, true)
    | none => (w, false)

/-- Stops watching a path, and what is below it if that was watched with it, and tells whether
the path was watched. -/
def unwatch (w : FileWatcher) (path : Path) : FileWatcher × Bool :=
  match w.release path false with
  | (w, true) => ({ w with requested := w.requested.filter fun p => ¬p.Same path }, true)
  | (w, false) => (w, false)

/-! ### Notices -/

/-- The path of a place below the directory it lies in, if that is watched. -/
def heardFrom (w : FileWatcher) (place : Place) : List Path :=
  match place.getLast? with
  | none => []
  | some name => ((w.live.lookup place.dropLast).map fun p => p.join ⟨name⟩).toList

/-- The path of a place that is watched itself. -/
def heardAt (w : FileWatcher) (place : Place) : List Path := (w.live.lookup place).toList

/-- One notice for each path. -/
def notices (kind : ChangeKind) (paths : List Path) : List Notice :=
  paths.map fun p => ⟨some kind, [p]⟩

/-- The notices to whoever watches what comes to an end itself: that it is gone, and for a file
first that it has one name less. -/
def endNotices (w : FileWatcher) (t : FileTree) (place : Place) : List Notice :=
  (if (t.find place).any FileNode.isDirectory then [] else notices .modified (w.heardAt place))
    ++ notices .removed (w.heardAt place)

/-- The watcher after the end of what is at a place and below it. -/
def bury (w : FileWatcher) (place : Place) : FileWatcher :=
  let dead := w.live.filter fun l => place.isPrefixOf l.1
  { w with
    watches := w.watches.filter fun v => !dead.any fun l => v.path.Same l.2
    live := w.live.filter fun l => !place.isPrefixOf l.1 }

/-- The watcher after what was at a place has moved to another. Watches by the old path end;
others go along. -/
def follow (w : FileWatcher) (source target : Place) : FileWatcher :=
  let moved (place : Place) : Place :=
    if source.isPrefixOf place then target ++ place.drop source.length else place
  let w := (w.heardFrom source).foldl (fun w p => (w.release p true).1) w
  { w with
    watches := w.watches.map fun v => { v with place := moved v.place }
    live := w.live.map fun l => (moved l.1, l.2) }

/-- Watches a directory that is new at a place, if its directory is watched with all below it. -/
def adopt (w : FileWatcher) (t : FileTree) (place : Place) : FileWatcher :=
  match t.find place, w.live.lookup place.dropLast, place.getLast? with
  | some .directory, some p, some name =>
    if w.watches.any fun v => v.recursive && v.path.Same p then w.addBelow t (p.join ⟨name⟩) place
    else w
  | _, _, _ => w

/-- Makes a change, and gives notice of it. To make a file that exists is to empty it. -/
def change (w : FileWatcher) (t : FileTree) : TreeChange → List Notice × FileWatcher × FileTree
  | .create path =>
    match t.placeOf path with
    | none => ([], w, t)
    | some place =>
      let heard :=
        if (t.find place).isSome then notices .modified (w.heardFrom place ++ w.heardAt place)
        else notices .created (w.heardFrom place)
      (heard, w, t.makeFile place .empty)
  | .append path =>
    match t.placeOf path with
    | none => ([], w, t)
    | some place => (notices .modified (w.heardFrom place ++ w.heardAt place), w, t)
  | .remove path =>
    match t.placeOf path with
    | none => ([], w, t)
    | some place =>
      (w.endNotices t place ++ notices .removed (w.heardFrom place), w.bury place, t.remove place)
  | .rename source target =>
    match t.placeOf source, t.placeOf target with
    | some source, some target =>
      if source = target then ([], w, t) else
      let names := w.heardFrom source ++ w.heardFrom target
      let heard := notices .modified names ++ [⟨some .modified, names⟩]
        ++ notices .modified (w.heardAt source) ++ w.endNotices t target
      let t := t.move source target
      (heard, ((w.bury target).follow source target).adopt t target, t)
    | _, _ => ([], w, t)

/-- The events of a list of notices, repetitions left out. -/
def distinctEvents (notices : List Notice) : List Event :=
  (notices.flatMap Notice.events).eraseDups

end FileWatcher

end Recompile
