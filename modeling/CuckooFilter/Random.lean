import CuckooFilter.Geometry

/-!
# Random choices of a relocation walk

A walk draws 64-bit words from a source and decides two things by them: in which of two buckets to
start, by one word's highest bit, and which slot to evict, by the two highest bits. Nothing else is
known of the source, so what is proven of a table holds for every sequence of words.
-/

namespace CuckooFilter

/-- A source of 64-bit words. -/
class WordSource (R : Type) where
  /-- The next word, and the source after it. -/
  next : R → UInt64 × R

export WordSource (next)

/-- Every infinite sequence of words is a source. -/
instance : WordSource (Nat → UInt64) where
  next words := (words 0, fun n => words (n + 1))

/-- An even choice: true when the highest bit is clear. -/
def coin (word : UInt64) : Bool :=
  word < 0x8000000000000000

/-- One of the slots of a bucket, by the two highest bits. -/
def slotChoice (word : UInt64) : Fin bucketSize :=
  ⟨(word >>> 62).toNat % bucketSize, Nat.mod_lt _ (by decide)⟩

end CuckooFilter
