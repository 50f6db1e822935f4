import Recompile.FileId
import Recompile.Machine
import Std.Data.TreeMap.Basic

/-!
# Package symbols

Each qualified name belongs to one module and one package. A package keeps its names in the
order in which they entered it, and a package without names is dropped.
-/

namespace Recompile

/-- Where a name is defined. -/
structure Definition where
  module : FileId
  package : String
deriving DecidableEq, Repr

/-- The names known so far, by name and by package. -/
structure Symbols where
  definitions : Std.TreeMap String Definition := ∅
  packages : Std.TreeMap String (List String) := ∅

namespace Symbols

/-- No name is known. -/
def empty : Symbols := {}

/-- Where a name is defined. -/
def find (s : Symbols) (name : String) : Option Definition := s.definitions[name]?

/-- The module that defines a name. -/
def lookup (s : Symbols) (name : String) : Option FileId := (s.find name).map (·.module)

/-- The package a name belongs to. -/
def packageOf (s : Symbols) (name : String) : Option String := (s.find name).map (·.package)

/-- The names of a package in the order in which they entered it. -/
def namesOf (s : Symbols) (package : String) : List String := s.packages[package]?.getD []

/-- The modules that define the names of a package, in the order of the names. -/
def inPackage (s : Symbols) (package : String) : List FileId :=
  (s.namesOf package).filterMap s.lookup

/-- The lists of names after a name left a package. A package without names is dropped. -/
def leave (packages : Std.TreeMap String (List String)) (package name : String) :
    Std.TreeMap String (List String) :=
  match packages[package]? with
  | none => packages
  | some names =>
    let rest := names.filter (· ≠ name)
    if rest = [] then packages.erase package else packages.insert package rest

/-- The lists of names after a name entered a package. -/
def enter (packages : Std.TreeMap String (List String)) (package name : String) :
    Std.TreeMap String (List String) :=
  packages.insert package (packages[package]?.getD [] ++ [name])

/-- Defines a name in a package. A name of another package moves; a name of the same package
keeps its place. -/
def insert (s : Symbols) (name : String) (module : FileId) (package : String) : Symbols where
  definitions := s.definitions.insert name ⟨module, package⟩
  packages :=
    match s.packageOf name with
    | none => enter s.packages package name
    | some old =>
      if old = package then s.packages else enter (leave s.packages old name) package name

/-- Forgets a package and its names. -/
def removePackage (s : Symbols) (package : String) : Symbols where
  definitions := (s.namesOf package).foldl (fun ds name => ds.erase name) s.definitions
  packages := s.packages.erase package

/-- How many names are known. -/
def size (s : Symbols) : Nat := s.definitions.size

/-- Whether no name is known. -/
def isEmpty (s : Symbols) : Bool := s.definitions.isEmpty

/-- The sizes of both tables, for diagnostics. -/
def debugText (s : Symbols) : String :=
  "PackageSymbols \x7b symbols: " ++ toString s.size ++ ", packages: "
    ++ toString s.packages.size ++ " \x7d"

/-! ### Histories -/

/-- What can be asked of the symbols. -/
inductive Step where
  | insert (name : String) (module : FileId) (package : String)
  | lookup (name : String)
  | packageOf (name : String)
  | inPackage (package : String)
  | removePackage (package : String)
  | size
  | isEmpty
  | clear
  | debugText

/-- What the symbols answer. -/
inductive Answer where
  | done
  | file (id : Option FileId)
  | text (t : Option String)
  | files (ids : List FileId)
  | count (n : Nat)
  | flag (b : Bool)

/-- One step of the symbols. -/
def step (s : Symbols) : Step → Symbols × Answer
  | .insert name module package => (s.insert name module package, .done)
  | .lookup name => (s, .file (s.lookup name))
  | .packageOf name => (s, .text (s.packageOf name))
  | .inPackage package => (s, .files (s.inPackage package))
  | .removePackage package => (s.removePackage package, .done)
  | .size => (s, .count s.size)
  | .isEmpty => (s, .flag s.isEmpty)
  | .clear => (empty, .done)
  | .debugText => (s, .text (some s.debugText))

/-- The steps of a history, from no symbols. -/
def run (steps : List Step) : Symbols × List Answer := runSteps step empty steps

end Symbols

end Recompile
