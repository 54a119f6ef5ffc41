import CuckooFilter.Bytes

/-!
# Hash functions

A filter is built over any stable function from bytes and a seed to a 64-bit word: the low bits of
a key's word choose its first bucket, the high bits become its fingerprint. Fingerprints are hashed
by the same function, from their little-endian bytes.
-/

namespace CuckooFilter

abbrev HashFunction := Bytes → UInt32 → UInt64

/-- The seed of every key and fingerprint hash. -/
def hashSeed : UInt32 := 1

/-- The word `x` turned left by `n` bits. -/
@[inline] def rotateLeft (x n : UInt64) : UInt64 :=
  (x <<< n) ||| (x >>> (64 - n))

end CuckooFilter
