import CuckooFilter.Bytes
import Mathlib.Algebra.Group.Nat.Defs

/-!
# Little-endian numbers

What is read from the bytes of a number is the number, if it fits in them.

* `ofLittleEndian_lt`: the number read is below `256 ^ width`;
* `ofLittleEndian_littleEndian`: reading gives back the number modulo `256 ^ width`;
* `littleEndian_ofLittleEndian`: every byte string is the stored form of the number it reads as.
-/

namespace CuckooFilter

theorem ofLittleEndian_lt (bs : Bytes) : ofLittleEndian bs < 256 ^ bs.length := by
  induction bs with
  | nil => simp [ofLittleEndian]
  | cons b bs ih =>
    have hb : b.toNat < 256 := b.toNat_lt
    simp only [ofLittleEndian, List.length_cons, Nat.pow_succ]
    omega

theorem ofLittleEndian_littleEndian (width n : Nat) :
    ofLittleEndian (littleEndian width n) = n % 256 ^ width := by
  induction width generalizing n with
  | zero => simp [littleEndian, ofLittleEndian, Nat.mod_one]
  | succ width ih =>
    simp only [littleEndian, ofLittleEndian, ih, UInt8.toNat_ofNat']
    rw [show 256 ^ (width + 1) = 256 * 256 ^ width by rw [Nat.pow_succ, Nat.mul_comm], Nat.mod_mul]

theorem littleEndian_ofLittleEndian (bs : Bytes) :
    littleEndian bs.length (ofLittleEndian bs) = bs := by
  induction bs with
  | nil => rfl
  | cons b bs ih =>
    have hb : b.toNat < 256 := b.toNat_lt
    have hdiv : (b.toNat + 256 * ofLittleEndian bs) / 256 = ofLittleEndian bs := by omega
    simp only [List.length_cons, ofLittleEndian, littleEndian, hdiv, ih, List.cons.injEq, and_true]
    apply UInt8.toNat_inj.1
    simp only [UInt8.toNat_ofNat']
    omega

/-- The stored forms of numbers below `256 ^ width` tell the numbers apart. -/
theorem littleEndian_inj {width m n : Nat} (hm : m < 256 ^ width) (hn : n < 256 ^ width)
    (h : littleEndian width m = littleEndian width n) : m = n := by
  have := congrArg ofLittleEndian h
  rwa [ofLittleEndian_littleEndian, ofLittleEndian_littleEndian, Nat.mod_eq_of_lt hm,
    Nat.mod_eq_of_lt hn] at this

/-- A word of whole bytes is read back from them. -/
theorem ofLittleEndian_toNat {bits : Nat} (h : 8 ∣ bits) (x : BitVec bits) :
    ofLittleEndian (littleEndian (bits / 8) x.toNat) = x.toNat := by
  have hx := x.isLt
  rw [ofLittleEndian_littleEndian]
  refine Nat.mod_eq_of_lt ?_
  rwa [show 256 = 2 ^ 8 from rfl, ← Nat.pow_mul, Nat.mul_div_cancel' h]

end CuckooFilter
