import CuckooFilter.Geometry

/-!
# Fingerprints

A slot keeps the high bits of a key's hash. Zero marks an empty slot, so a hash whose high bits are
all zero has fingerprint one.
-/

namespace CuckooFilter

/-- A fingerprint of `w` bits. -/
abbrev Fingerprint (w : Nat) := BitVec w

namespace Fingerprint

/-- The top `w` bits of a hash, or one if they are all zero. -/
def ofHash (w : Nat) (hash : UInt64) : Fingerprint w :=
  let top := BitVec.ofNat w (hash.toNat >>> (64 - w))
  if top = 0 then 1 else top

/-- A key's fingerprint never looks like an empty slot. -/
theorem ofHash_ne_zero {w : Nat} (hw : 0 < w) (hash : UInt64) : ofHash w hash ≠ 0 := by
  simp only [ofHash]
  split
  · intro h
    have := congrArg BitVec.toNat h
    have hone : 1 < 2 ^ w := Nat.one_lt_two_pow (by omega)
    simp [Nat.mod_eq_of_lt hone] at this
  · assumption

/-- The hash of the fingerprint's little-endian bytes. -/
def digest {w : Nat} (hash : HashFunction) (f : Fingerprint w) : UInt64 :=
  hash (littleEndian (w / 8) f.toNat) hashSeed

end Fingerprint

end CuckooFilter
