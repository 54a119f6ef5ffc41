import CuckooFilter.Hash

/-!
# Table geometry

A table has a power of two of buckets. An entry may sit in one of two of them; each is the other
xored with the top bits of a digest of the entry's fingerprint (`alternate`), so that either one
and the fingerprint give the other. `indexShift` is the shift that leaves as many of the 64 bits as
a bucket index has.
-/

namespace CuckooFilter

/-- Slots in a bucket. -/
abbrev bucketSize : Nat := 4

/-- The least power of two that is at least `n`; one for zero. -/
def powerOfTwoAtLeast (n : Nat) : Nat :=
  if n ≤ 1 then 1 else 1 <<< ((n - 1).log2 + 1)

/-- The number of buckets that hold at least `capacity` entries. -/
def bucketCount (capacity : Nat) : Nat :=
  powerOfTwoAtLeast ((capacity + (bucketSize - 1)) / bucketSize)

/-- How many of the 64 bits of a word stand above its highest set bit. -/
def leadingZeros (n : Nat) : Nat :=
  if n = 0 then 64 else 63 - n.log2

/-- The shift that turns a 64-bit digest into an index below `buckets`, a power of two. -/
def indexShift (buckets : Nat) : Nat :=
  leadingZeros buckets + 1

/-- The other bucket of an entry in bucket `index` whose fingerprint has the digest `digest`. -/
def alternate (buckets : Nat) (digest : UInt64) (index : Nat) : Nat :=
  index ^^^ (digest.toNat >>> indexShift buckets)

/-- Going to the other bucket twice leads back. -/
theorem alternate_alternate (buckets : Nat) (digest : UInt64) (index : Nat) :
    alternate buckets digest (alternate buckets digest index) = index := by
  simp only [alternate, Nat.xor_assoc, Nat.xor_self, Nat.xor_zero]

end CuckooFilter
