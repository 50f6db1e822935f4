import Recompile.Fault

/-!
# Edge keys

An edge between two known files is kept as one 64-bit number: the dependent file in the high
half, the file it depends on in the low half. The order of the numbers is the order of the
pairs, the dependent first.
-/

namespace Recompile

/-- A pair of files in one number. -/
structure EdgeKey where
  raw : UInt64
deriving DecidableEq, Repr

namespace EdgeKey

instance : Ord EdgeKey := ⟨fun a b => compare a.raw b.raw⟩

instance : Std.TransOrd EdgeKey :=
  inferInstanceAs (Std.TransCmp (compareOn EdgeKey.raw))

instance : Std.LawfulEqOrd EdgeKey where
  eq_of_compare {a b} h := by
    obtain ⟨a⟩ := a
    obtain ⟨b⟩ := b
    have h' : compare a b = .eq := h
    rw [Std.LawfulEqOrd.eq_of_compare h']

/-- The two numbers side by side. -/
def pack (dependent dependency : FileId) : EdgeKey :=
  ⟨dependent.val.toUInt32.toUInt64 <<< 32 ||| dependency.val.toUInt32.toUInt64⟩

/-- The key of an edge. Only known files have edges. -/
def encode (dependent dependency : FileId) : Except Fault EdgeKey :=
  if dependent.isKnown && dependency.isKnown then .ok (pack dependent dependency)
  else .error (.unencodableEdge dependent dependency)

/-- The file in the high half. -/
def dependent (k : EdgeKey) : FileId := ⟨(k.raw >>> 32).toUInt32.toInt32⟩

/-- The file in the low half. -/
def dependency (k : EdgeKey) : FileId := ⟨k.raw.toUInt32.toInt32⟩

/-- The pair of files in a key. -/
def decode (k : EdgeKey) : FileId × FileId := (k.dependent, k.dependency)

end EdgeKey

end Recompile
