import CuckooFilter.Config
import Mathlib.Algebra.Group.Nat.Defs
import Mathlib.Order.Bounds.Defs

/-!
# Table sizes

The number of buckets of every table that a filter builds is a power of two that fits in 64 bits
(`isTableSize_bucketCount`). What the rest of the theory needs of such a size is

* `alternate_lt`: the other bucket of an entry is a bucket of the table;
* `lt_iff_exists_offset`: every index is how far apart the two buckets of some entry may be;
* `isLeast_bucketCount`: no smaller power of two of buckets is enough for a capacity;
* `bucketCount_slots`: asking for as many entries as a table has slots gives a table of that size;
* `checkCapacity_slots`: and such a capacity is accepted again.
-/

namespace CuckooFilter

/-- A power of two of buckets that a 64-bit digest can be turned into an index of. -/
def IsTableSize (buckets : Nat) : Prop :=
  ∃ k < 64, buckets = 2 ^ k

theorem IsTableSize.pos {buckets : Nat} (h : IsTableSize buckets) : 0 < buckets := by
  obtain ⟨k, -, rfl⟩ := h
  exact Nat.two_pow_pos k

theorem indexShift_two_pow {k : Nat} (hk : k < 64) : indexShift (2 ^ k) = 64 - k := by
  have hpos : 2 ^ k ≠ 0 := Nat.ne_of_gt (Nat.two_pow_pos k)
  simp only [indexShift, leadingZeros, hpos, ↓reduceIte, Nat.log2_two_pow]
  omega

/-- What is left of a digest after the shift is an index. -/
theorem shiftRight_indexShift_lt {k : Nat} (hk : k < 64) (digest : UInt64) :
    digest.toNat >>> indexShift (2 ^ k) < 2 ^ k := by
  have hd := digest.toNat_lt
  rw [indexShift_two_pow hk, Nat.shiftRight_eq_div_pow]
  apply Nat.div_lt_of_lt_mul
  rw [← Nat.pow_add, show 64 - k + k = 64 by omega]
  exact hd

theorem alternate_lt {buckets index : Nat} (h : IsTableSize buckets) (digest : UInt64)
    (hi : index < buckets) : alternate buckets digest index < buckets := by
  obtain ⟨k, hk, rfl⟩ := h
  exact Nat.xor_lt_two_pow hi (shiftRight_indexShift_lt hk digest)

/-- The shift leaves just the indices: each is what some digest is turned into. -/
theorem lt_iff_exists_offset {buckets : Nat} (h : IsTableSize buckets) (offset : Nat) :
    offset < buckets ↔ ∃ digest : UInt64, ∀ i, alternate buckets digest i = i ^^^ offset := by
  obtain ⟨k, hk, rfl⟩ := h
  constructor
  · intro hlt
    have hpow : 2 ^ k * 2 ^ (64 - k) = 2 ^ 64 := by
      rw [← Nat.pow_add, show k + (64 - k) = 64 by omega]
    have hword : offset <<< (64 - k) < 2 ^ 64 := by
      rw [Nat.shiftLeft_eq, ← hpow]
      exact Nat.mul_lt_mul_of_pos_right hlt (Nat.two_pow_pos _)
    refine ⟨UInt64.ofNat (offset <<< (64 - k)), fun i => ?_⟩
    rw [alternate, indexShift_two_pow hk, UInt64.toNat_ofNat_of_lt' hword,
      Nat.shiftLeft_shiftRight]
  · rintro ⟨digest, hdigest⟩
    have hlt := shiftRight_indexShift_lt hk digest
    have hzero := hdigest 0
    rw [alternate, Nat.zero_xor, Nat.zero_xor] at hzero
    rwa [hzero] at hlt

/-! ## Sizes of requested capacities -/

theorem isLeast_powerOfTwoAtLeast (n : Nat) :
    IsLeast {p | (∃ k, p = 2 ^ k) ∧ n ≤ p} (powerOfTwoAtLeast n) := by
  unfold powerOfTwoAtLeast
  split
  · rename_i hn
    refine ⟨⟨⟨0, rfl⟩, hn⟩, ?_⟩
    rintro _ ⟨⟨k, rfl⟩, -⟩
    exact Nat.one_le_two_pow
  · rename_i hn
    rw [Nat.one_shiftLeft]
    refine ⟨⟨⟨_, rfl⟩, ?_⟩, ?_⟩
    · have hlt := Nat.lt_log2_self (n := n - 1)
      omega
    · rintro _ ⟨⟨k, rfl⟩, hle⟩
      have hlog : (n - 1).log2 < k := (Nat.log2_lt (by omega)).2 (by omega)
      exact Nat.pow_le_pow_right (by decide) hlog

/-- A capacity gets the fewest buckets that hold it, of all powers of two. -/
theorem isLeast_bucketCount (capacity : Nat) :
    IsLeast {p | (∃ k, p = 2 ^ k) ∧ capacity ≤ p * bucketSize} (bucketCount capacity) := by
  have hceil (p : Nat) : (capacity + (bucketSize - 1)) / bucketSize ≤ p ↔ capacity ≤ p * bucketSize := by
    simp only [bucketSize]
    omega
  have hleast := isLeast_powerOfTwoAtLeast ((capacity + (bucketSize - 1)) / bucketSize)
  simp only [hceil] at hleast
  exact hleast

theorem powerOfTwoAtLeast_two_pow (k : Nat) : powerOfTwoAtLeast (2 ^ k) = 2 ^ k := by
  cases k with
  | zero => rfl
  | succ k =>
    have hpos := Nat.two_pow_pos k
    have hpow : 2 ^ (k + 1) = 2 * 2 ^ k := by rw [Nat.pow_succ, Nat.mul_comm]
    have hlog : (2 ^ (k + 1) - 1).log2 = k :=
      (Nat.log2_eq_iff (by omega)).2 ⟨by omega, by omega⟩
    rw [powerOfTwoAtLeast, if_neg (by omega), hlog, Nat.one_shiftLeft]

theorem checkCapacity_eq_ok {capacity : Nat} :
    checkCapacity capacity = .ok () ↔ 4 < capacity ∧ capacity ≤ 2 ^ 33 := by
  have hmax : maxCapacity = 2 ^ 33 := rfl
  rw [checkCapacity, hmax]
  by_cases hs : capacity ≤ 4
  · rw [if_pos hs]; simp only [reduceCtorEq, false_iff]; omega
  by_cases hl : 2 ^ 33 < capacity
  · rw [if_neg hs, if_pos hl]; simp only [reduceCtorEq, false_iff]; omega
  · rw [if_neg hs, if_neg hl]; simp only [true_iff]; omega

theorem ExpiringConfig.validate_eq_ok {c : ExpiringConfig} :
    c.validate = .ok () ↔
      checkCapacity c.capacity = .ok () ∧ 1 ≤ c.intervalMinutes ∧ c.intervalMinutes ≤ 1440 := by
  have hmax : maxIntervalMinutes = 1440 := rfl
  rw [validate, hmax]
  cases checkCapacity c.capacity with
  | error fault => simp
  | ok _ =>
    by_cases hminutes : c.intervalMinutes = 0 ∨ 1440 < c.intervalMinutes
    · simp only [if_pos hminutes, reduceCtorEq, true_and, false_iff]
      omega
    · simp only [if_neg hminutes, true_and, true_iff]
      omega

/-- The intervals of a valid configuration last from a minute to a day. -/
theorem ExpiringConfig.intervalSeconds_bounds {c : ExpiringConfig} (h : c.validate = .ok ()) :
    0 < c.intervalSeconds ∧ c.intervalSeconds ≤ 86400 := by
  obtain ⟨-, hmin, hmax⟩ := validate_eq_ok.1 h
  rw [intervalSeconds]
  omega

/-- An accepted capacity needs at least two buckets and at most `2 ^ 31`. -/
theorem bucketCount_eq_two_pow {capacity : Nat} (h : checkCapacity capacity = .ok ()) :
    ∃ k, 1 ≤ k ∧ k ≤ 31 ∧ bucketCount capacity = 2 ^ k := by
  obtain ⟨hmin, hmax⟩ := checkCapacity_eq_ok.1 h
  have hn : 2 ≤ (capacity + 3) / 4 := by omega
  have hlt : (capacity + 3) / 4 - 1 < 2 ^ 31 := by omega
  have hlog : ((capacity + 3) / 4 - 1).log2 < 31 := (Nat.log2_lt (by omega)).2 hlt
  refine ⟨((capacity + 3) / 4 - 1).log2 + 1, by omega, by omega, ?_⟩
  exact (if_neg (Nat.not_le.2 hn)).trans (Nat.one_shiftLeft _)

theorem isTableSize_bucketCount {capacity : Nat} (h : checkCapacity capacity = .ok ()) :
    IsTableSize (bucketCount capacity) := by
  obtain ⟨k, -, hk, e⟩ := bucketCount_eq_two_pow h
  exact ⟨k, by omega, e⟩

theorem two_le_bucketCount {capacity : Nat} (h : checkCapacity capacity = .ok ()) :
    2 ≤ bucketCount capacity := by
  obtain ⟨k, hk, -, e⟩ := bucketCount_eq_two_pow h
  have hge : 2 ^ 1 ≤ 2 ^ k := Nat.pow_le_pow_right (by decide) hk
  rwa [e]

theorem bucketCount_le {capacity : Nat} (h : checkCapacity capacity = .ok ()) :
    bucketCount capacity ≤ 2 ^ 31 := by
  obtain ⟨k, -, hk, e⟩ := bucketCount_eq_two_pow h
  rw [e]
  exact Nat.pow_le_pow_right (by decide) hk

/-- A table is large enough for the capacity it has. -/
theorem bucketCount_slots {capacity : Nat} (h : checkCapacity capacity = .ok ()) :
    bucketCount (bucketCount capacity * bucketSize) = bucketCount capacity := by
  obtain ⟨k, -, -, e⟩ := bucketCount_eq_two_pow h
  have hdiv : (2 ^ k * 4 + 3) / 4 = 2 ^ k := by omega
  rw [e]
  exact (congrArg powerOfTwoAtLeast hdiv).trans (powerOfTwoAtLeast_two_pow k)

theorem checkCapacity_slots {capacity : Nat} (h : checkCapacity capacity = .ok ()) :
    checkCapacity (bucketCount capacity * bucketSize) = .ok () := by
  have hge := two_le_bucketCount h
  have hle := bucketCount_le h
  rw [checkCapacity_eq_ok, bucketSize]
  omega

end CuckooFilter
