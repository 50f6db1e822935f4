import Recompile.Fault
import Recompile.Machine
import Std.Data.TreeMap.Basic

/-!
# The compile-time cache

Three independent families of named stores: sequences that only grow, counters, and tables
whose keys are written once. A refused write leaves the cache as it was.
-/

namespace Recompile

/-- Values kept while compiling, by family and name. -/
structure Cache (α : Type) where
  sequences : Std.TreeMap String (Array α) := ∅
  counters : Std.TreeMap String Int := ∅
  tables : Std.TreeMap String (Std.TreeMap String α) := ∅

namespace Cache

variable {α : Type}

/-- Nothing has been written. -/
def empty : Cache α := {}

instance : Inhabited (Cache α) := ⟨empty⟩

/-- Whether nothing has been written. -/
def isEmpty (c : Cache α) : Bool :=
  c.sequences.isEmpty && c.counters.isEmpty && c.tables.isEmpty

/-! ### Sequences -/

/-- The values of a sequence in order, none if it was never written. -/
def sequence (c : Cache α) (name : String) : Array α := c.sequences[name]?.getD #[]

/-- Adds a value at the end of a sequence. -/
def append (c : Cache α) (name : String) (value : α) : Cache α :=
  { c with sequences := c.sequences.insert name ((c.sequence name).push value) }

/-! ### Counters -/

/-- A counter is a signed 64-bit number. -/
def inCounterRange (n : Int) : Bool :=
  Int64.minValue.toInt ≤ n && n ≤ Int64.maxValue.toInt

/-- The value of a counter, zero if it was never written. -/
def counter (c : Cache α) (name : String) : Int := c.counters[name]?.getD 0

/-- Adds to a counter and returns its new value. -/
def increment (c : Cache α) (name : String) (n : Int) : Except Fault (Int × Cache α) :=
  let sum := c.counter name + n
  if inCounterRange sum then .ok (sum, { c with counters := c.counters.insert name sum })
  else .error (.counterOverflow name)

/-! ### Tables -/

/-- The contents of a table, none if it was never written. -/
def table (c : Cache α) (name : String) : Std.TreeMap String α := c.tables[name]?.getD ∅

/-- The value of a key in a table. -/
def find (c : Cache α) (name key : String) : Option α := (c.table name)[key]?

/-- Writes a new key of a table. -/
def put (c : Cache α) (name key : String) (value : α) : Except Fault (Cache α) :=
  if (c.table name).contains key then .error (.duplicateKey name key)
  else .ok { c with tables := c.tables.insert name ((c.table name).insert key value) }

/-- The entries of a table in the order of their keys. -/
def entries (c : Cache α) (name : String) : List (String × α) := (c.table name).toList

/-! ### Histories -/

/-- What can be asked of a cache. -/
inductive Step (α : Type) where
  | append (name : String) (value : α)
  | sequence (name : String)
  | sequenceLength (name : String)
  | counter (name : String)
  | increment (name : String) (n : Int)
  | put (name key : String) (value : α)
  | find (name key : String)
  | tableSize (name : String)
  | entries (name : String)
  | isEmpty
  | clear

/-- What a cache answers. -/
inductive Answer (α : Type) where
  | done
  | fault (cause : Fault)
  | values (vs : List α)
  | count (n : Nat)
  | total (n : Int)
  | value (v : Option α)
  | entries (es : List (String × α))
  | flag (b : Bool)

/-- One step of a cache. -/
def step (c : Cache α) : Step α → Cache α × Answer α
  | .append name value => (c.append name value, .done)
  | .sequence name => (c, .values (c.sequence name).toList)
  | .sequenceLength name => (c, .count (c.sequence name).size)
  | .counter name => (c, .total (c.counter name))
  | .increment name n =>
    match c.increment name n with
    | .ok (sum, c') => (c', .total sum)
    | .error cause => (c, .fault cause)
  | .put name key value =>
    match c.put name key value with
    | .ok c' => (c', .done)
    | .error cause => (c, .fault cause)
  | .find name key => (c, .value (c.find name key))
  | .tableSize name => (c, .count (c.table name).size)
  | .entries name => (c, .entries (c.entries name))
  | .isEmpty => (c, .flag c.isEmpty)
  | .clear => (empty, .done)

/-- The steps of a history, from the empty cache. -/
def run (steps : List (Step α)) : Cache α × List (Answer α) := runSteps step empty steps

end Cache

end Recompile
