import CuckooFilter.Proofs.Table.Entries

/-!
# The buckets of a table

A filter's table has as many buckets as its capacity needs, rounded up to a power of two, and a table
of a power of two of buckets has both buckets of every entry: either one gives the other by the
fingerprint alone, whatever the hash function, and no bucket is out of reach
(`Table.lt_size_iff_exists_offset`). `Table.pairs_buckets` puts these together.
-/

namespace CuckooFilter.Table

variable {w v : Nat} {R : Type}

section Pairs

variable {t : Table w v R} (ht : IsTableSize t.size)

include ht

theorem alternate_lt_size {i : Nat} (hi : i < t.size) (f : Fingerprint w) :
    t.alternate i f < t.size :=
  CuckooFilter.alternate_lt ht _ hi

theorem primary_locate_lt (key : Bytes) : (t.locate key).primary < t.size :=
  Nat.mod_lt _ ht.pos

end Pairs

/-- The two buckets of a key are each other's alternate. -/
theorem alternate_secondary_locate (t : Table w v R) (key : Bytes) :
    t.alternate (t.locate key).secondary (t.locate key).fingerprint = (t.locate key).primary :=
  alternate_alternate ..

/-- The indices are just what a digest, if it is that of all fingerprints, moves entries by. -/
theorem lt_size_iff_exists_offset {t : Table w v R} (ht : IsTableSize t.size) (offset : Nat) :
    offset < t.size ↔ ∃ digest : UInt64, ∀ i f,
      ({ t with hash := fun _ _ => digest } : Table w v R).alternate i f = i ^^^ offset := by
  rw [lt_iff_exists_offset ht]
  constructor
  · rintro ⟨digest, hdigest⟩
    exact ⟨digest, fun i _ => hdigest i⟩
  · rintro ⟨digest, hdigest⟩
    exact ⟨digest, fun i => hdigest i 0⟩

/-- A capacity that is accepted gets the least power of two of buckets that holds it, and asking for
all slots of these is accepted and gets the same. In a table of any power of two of buckets that 64
bits can tell apart, the two buckets of an entry are in the table and give each other, those of a key
too, and by what a fingerprint hashes to they may be any index apart and nothing else. -/
theorem pairs_buckets :
    (∀ c : Config, c.validate = .ok () ↔ 4 < c.capacity ∧ c.capacity ≤ 2 ^ 33) ∧
    (∀ c : Config, c.validate = .ok () →
      IsLeast {p | (∃ k, p = 2 ^ k) ∧ c.capacity ≤ p * bucketSize} (bucketCount c.capacity) ∧
      2 ≤ bucketCount c.capacity ∧ bucketCount c.capacity ≤ 2 ^ 31 ∧
      bucketCount (bucketCount c.capacity * bucketSize) = bucketCount c.capacity ∧
      { c with capacity := bucketCount c.capacity * bucketSize }.validate = .ok ()) ∧
    (∀ c : ExpiringConfig, c.validate = .ok () → c.toConfig.validate = .ok () ∧
      { c with capacity := bucketCount c.capacity * bucketSize }.validate = .ok ()) ∧
    ∀ t : Table w v R, IsTableSize t.size →
      (∀ i < t.size, ∀ f, t.alternate i f < t.size ∧ t.alternate (t.alternate i f) f = i) ∧
      (∀ key, (t.locate key).primary < t.size ∧ (t.locate key).secondary < t.size ∧
        t.alternate (t.locate key).primary (t.locate key).fingerprint = (t.locate key).secondary ∧
        t.alternate (t.locate key).secondary (t.locate key).fingerprint = (t.locate key).primary) ∧
      ∀ offset, offset < t.size ↔ ∃ digest : UInt64, ∀ i f,
        ({ t with hash := fun _ _ => digest } : Table w v R).alternate i f = i ^^^ offset := by
  refine ⟨fun _ => checkCapacity_eq_ok, fun c h => ?_, fun c h => ?_, fun t ht => ⟨?_, ?_, ?_⟩⟩
  · exact ⟨isLeast_bucketCount c.capacity, two_le_bucketCount h, bucketCount_le h, bucketCount_slots h,
      checkCapacity_slots h⟩
  · obtain ⟨hcapacity, hminutes⟩ := ExpiringConfig.validate_eq_ok.1 h
    exact ⟨hcapacity, ExpiringConfig.validate_eq_ok.2 ⟨checkCapacity_slots hcapacity, hminutes⟩⟩
  · exact fun i hi f => ⟨alternate_lt_size ht hi f, alternate_alternate ..⟩
  · intro key
    have hprimary := primary_locate_lt ht key
    exact ⟨hprimary, alternate_lt_size ht hprimary _, rfl, alternate_secondary_locate t key⟩
  · exact lt_size_iff_exists_offset ht

/-- A thousand entries get 256 buckets, and some digest takes an entry of the first to the last. -/
theorem pairs_buckets_thousand :
    let c : ExpiringConfig := { capacity := 1000 }
    let t : Table 32 8 (Nat → UInt64) := ofSize (bucketCount c.capacity) c.hash fun _ => 0
    c.validate = .ok () ∧ c.toConfig.validate = .ok () ∧ t.size = 256 ∧ IsTableSize t.size ∧
      IsLeast {p | (∃ k, p = 2 ^ k) ∧ c.capacity ≤ p * bucketSize} 256 ∧
      (∀ i < 256, ∀ f, t.alternate i f < 256 ∧ t.alternate (t.alternate i f) f = i) ∧
      ∃ digest : UInt64, ∀ f,
        ({ t with hash := fun _ _ => digest } : Table 32 8 (Nat → UInt64)).alternate 0 f = 255 := by
  intro c t
  have hvalid : c.validate = .ok () := rfl
  have hcount : bucketCount c.capacity = 256 := by decide
  have hsize : t.size = 256 := by
    rw [← hcount]
    exact Array.size_replicate
  have hpow : IsTableSize t.size := ⟨8, by decide, hsize⟩
  obtain ⟨-, hplain, hexpiring, htable⟩ := pairs_buckets (w := 32) (v := 8) (R := Nat → UInt64)
  obtain ⟨hconfig, -⟩ := hexpiring c hvalid
  obtain ⟨hleast, -⟩ := hplain c.toConfig hconfig
  obtain ⟨hpairs, -, hoffset⟩ := htable t hpow
  rw [hcount] at hleast
  rw [hsize] at hpairs hoffset
  obtain ⟨digest, hdigest⟩ := (hoffset 255).1 (by decide)
  refine ⟨hvalid, hconfig, hsize, hpow, hleast, hpairs, digest, fun f => ?_⟩
  rw [hdigest, Nat.zero_xor]

end CuckooFilter.Table
