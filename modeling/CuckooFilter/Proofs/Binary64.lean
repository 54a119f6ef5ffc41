import CuckooFilter.Binary64
import Mathlib.Algebra.Order.Field.Rat
import Mathlib.Algebra.Order.Field.Power
import Mathlib.Tactic.Linarith
import Mathlib.Tactic.NormNum
import Mathlib.Tactic.Positivity
import Mathlib.Tactic.Ring

/-!
# The numbers that floating-point patterns denote

A finite pattern denotes an exact rational number (`FloatValue.number`). A pattern is told by the number
it denotes, but for the two zeros and the patterns of no number (`Binary64.eq_of_number_decode`),
because mantissas are normalised; `FloatValue.integer?` finds just the integers among them
(`FloatValue.integer?_eq_some_iff`); and a 32-bit pattern denotes the number that the 64-bit pattern
does which it is widened to (`Binary64.number_decode_widen`).
-/

namespace CuckooFilter

/-- An exact number, an infinity, or what is none of these. -/
inductive Number
  | rational (q : ℚ)
  | infinite (negative : Bool)
  | nan

namespace FloatValue

/-- The number that a floating-point value is. -/
def number : FloatValue → Number
  | finite negative mantissa exponent =>
    .rational ((if negative then -1 else 1) * (mantissa * 2 ^ exponent))
  | infinite negative => .infinite negative
  | nan => .nan

/-- Factors of two may stand in the mantissa or in the exponent. -/
theorem number_finite_mul_two_pow (negative : Bool) (mantissa k : Nat) (exponent : Int) :
    (finite negative (mantissa * 2 ^ k) exponent).number =
      (finite negative mantissa (k + exponent)).number := by
  have hpow : (2 : ℚ) ^ ((k : Int) + exponent) = 2 ^ k * 2 ^ exponent := by
    rw [zpow_add₀ two_ne_zero, zpow_natCast]
  simp only [number, hpow]
  push_cast
  ring_nf

/-! ## Integers -/

theorem number_finite_zero (negative : Bool) (mantissa : Nat) :
    (finite negative mantissa 0).number =
      .rational (((if negative then -1 else 1) * mantissa : Int) : ℚ) := by
  cases negative <;> simp [number]

theorem rational_intCast_inj {m n : Int} :
    Number.rational (m : ℚ) = .rational (n : ℚ) ↔ some m = some n := by
  rw [Number.rational.injEq, Int.cast_inj, Option.some_inj]

/-- A fraction in lowest terms, with a power of two below, is no integer. -/
theorem number_finite_ne {negative : Bool} {mantissa k : Nat} (h : mantissa % 2 ^ k ≠ 0) (n : Int) :
    (finite negative mantissa (-k)).number ≠ .rational n := by
  intro hn
  have hpow : (2 : ℚ) ^ (-(k : Int)) * 2 ^ k = 1 := by
    rw [zpow_neg, zpow_natCast]
    exact inv_mul_cancel₀ (pow_ne_zero k two_ne_zero)
  have hq : (if negative then -1 else 1) * ((mantissa : ℚ) * 2 ^ (-(k : Int))) = n :=
    Number.rational.inj hn
  have hmul := congrArg (· * (2 : ℚ) ^ k) hq
  simp only [mul_assoc, hpow, mul_one] at hmul
  have hint : (if negative then -1 else 1) * (mantissa : Int) = n * 2 ^ k := by
    cases negative <;> exact_mod_cast hmul
  have habs := congrArg Int.natAbs hint
  have hsign : (if negative then -1 else 1 : Int).natAbs = 1 := by cases negative <;> rfl
  rw [Int.natAbs_mul, Int.natAbs_mul, hsign, Int.natAbs_pow, Int.natAbs_natCast, Nat.one_mul] at habs
  rw [habs] at h
  exact h (Nat.mul_mod_left ..)

/-- The integer that is read off a value is the number that it is, and every integer is read. -/
theorem integer?_eq_some_iff {x : FloatValue} {n : Int} :
    x.integer? = some n ↔ x.number = .rational n := by
  cases x with
  | infinite negative => exact iff_of_false nofun nofun
  | nan => exact iff_of_false nofun nofun
  | finite negative mantissa exponent =>
    simp only [integer?]
    split
    · rename_i hexponent
      obtain ⟨k, rfl⟩ := Int.eq_ofNat_of_zero_le hexponent
      have hnumber := number_finite_mul_two_pow negative mantissa k 0
      rw [add_zero, number_finite_zero] at hnumber
      rw [Int.toNat_natCast, Nat.shiftLeft_eq, ← hnumber, rational_intCast_inj]
    · rename_i hexponent
      obtain ⟨k, hk⟩ : ∃ k : Nat, exponent = -k := ⟨(-exponent).toNat, by omega⟩
      subst hk
      rw [Int.neg_neg, Int.toNat_natCast, Nat.one_shiftLeft]
      split
      · rename_i hdvd
        have hnumber := number_finite_mul_two_pow negative (mantissa / 2 ^ k) k (-k)
        rw [Nat.div_mul_cancel (Nat.dvd_of_mod_eq_zero hdvd), add_neg_cancel, number_finite_zero]
          at hnumber
        rw [hnumber, rational_intCast_inj]
      · rename_i hdvd
        exact iff_of_false nofun (number_finite_ne hdvd n)

/-! ## Normalised mantissas -/

/-- A mantissa has 53 bits, the highest of them set unless the exponent is the least. -/
def Normal : FloatValue → Prop
  | finite _ mantissa exponent =>
    mantissa < 2 ^ 53 ∧ -1074 ≤ exponent ∧ (exponent = -1074 ∨ 2 ^ 52 ≤ mantissa)
  | infinite _ | nan => True

/-- One number with two exponents would need a mantissa of 54 bits for the lower one. -/
theorem exponent_le_of_normal {negative negative' : Bool} {mantissa mantissa' : Nat}
    {exponent exponent' : Int} (h : (finite negative mantissa exponent).Normal)
    (h' : (finite negative' mantissa' exponent').Normal)
    (heq : (mantissa : ℚ) * 2 ^ exponent = mantissa' * 2 ^ exponent') : exponent' ≤ exponent := by
  obtain ⟨hlt, hleast, -⟩ := h
  obtain ⟨-, -, hnormal'⟩ := h'
  by_contra hexponent
  obtain ⟨d, hd⟩ : ∃ d : Nat, exponent' = exponent + (d + 1 : Nat) :=
    ⟨(exponent' - exponent - 1).toNat, by omega⟩
  have hmantissa' : 2 ^ 52 ≤ mantissa' := hnormal'.resolve_left (by omega)
  rw [hd, zpow_add₀ two_ne_zero, zpow_natCast, mul_comm ((2 : ℚ) ^ exponent), ← mul_assoc] at heq
  have hcancel := mul_right_cancel₀ (zpow_ne_zero exponent two_ne_zero) heq
  have hmantissa : mantissa = mantissa' * 2 ^ (d + 1) := by exact_mod_cast hcancel
  have hdouble : mantissa' * 2 ^ 1 ≤ mantissa' * 2 ^ (d + 1) :=
    Nat.mul_le_mul_left _ (Nat.pow_le_pow_right (by decide) (by omega))
  omega

theorem magnitude_inj {negative negative' : Bool} {mantissa mantissa' : Nat}
    {exponent exponent' : Int} (h : (finite negative mantissa exponent).Normal)
    (h' : (finite negative' mantissa' exponent').Normal)
    (heq : (mantissa : ℚ) * 2 ^ exponent = mantissa' * 2 ^ exponent') :
    mantissa = mantissa' ∧ exponent = exponent' := by
  have hexponent : exponent = exponent' :=
    le_antisymm (exponent_le_of_normal h' h heq.symm) (exponent_le_of_normal h h' heq)
  subst hexponent
  have hcancel := mul_right_cancel₀ (zpow_ne_zero exponent two_ne_zero) heq
  exact ⟨by exact_mod_cast hcancel, rfl⟩

theorem sign_mul_inj {negative negative' : Bool} {a b : ℚ} (ha : 0 < a) (hb : 0 ≤ b)
    (h : (if negative then -1 else 1) * a = (if negative' then -1 else 1) * b) :
    negative = negative' ∧ a = b := by
  cases negative <;> cases negative' <;> simp at h ⊢ <;> linarith

/-- A number other than zero has one normalised mantissa and exponent. -/
theorem eq_of_number {x y : FloatValue} (hx : x.Normal) (hy : y.Normal) (h : x.number = y.number)
    (hzero : x.number ≠ .rational 0) : x = y := by
  cases x with
  | infinite negative =>
    cases y with
    | infinite negative' => rw [Number.infinite.inj h]
    | finite | nan => cases h
  | nan =>
    cases y with
    | nan => rfl
    | finite | infinite => cases h
  | finite negative mantissa exponent =>
    cases y with
    | infinite | nan => cases h
    | finite negative' mantissa' exponent' =>
      have heq := Number.rational.inj h
      have hne : (mantissa : ℚ) * 2 ^ exponent ≠ 0 := fun hm => hzero (by simp [number, hm])
      have hpos : 0 ≤ (mantissa : ℚ) * 2 ^ exponent := by positivity
      have hpos' : 0 ≤ (mantissa' : ℚ) * 2 ^ exponent' := by positivity
      obtain ⟨rfl, hmagnitude⟩ := sign_mul_inj (lt_of_le_of_ne hpos hne.symm) hpos' heq
      obtain ⟨rfl, rfl⟩ := magnitude_inj hx hy hmagnitude
      rfl

end FloatValue

namespace Binary64

/-! ## Fields of a pattern -/

/-- The value of a pattern by its fields. -/
def ofFields (negative : Bool) (exponent fraction : Nat) : FloatValue :=
  if exponent = 2047 then if fraction = 0 then .infinite negative else .nan
  else if exponent = 0 then .finite negative fraction (-1074)
  else .finite negative (2 ^ 52 + fraction) ((exponent : Int) - 1075)

theorem decode_eq (bits : UInt64) : decode bits =
    ofFields (bits.toNat.testBit 63) (bits.toNat / 2 ^ 52 % 2048) (bits.toNat % 2 ^ 52) := by
  simp only [decode, ofFields, Nat.shiftRight_eq_div_pow, Nat.one_shiftLeft]

theorem normal_ofFields {negative : Bool} {exponent fraction : Nat} (hf : fraction < 2 ^ 52) :
    (ofFields negative exponent fraction).Normal := by
  unfold ofFields
  split
  · split <;> trivial
  · split
    · exact ⟨by omega, le_refl _, .inl rfl⟩
    · exact ⟨by omega, by omega, .inr (by omega)⟩

theorem normal_decode (bits : UInt64) : (decode bits).Normal := by
  rw [decode_eq]
  exact normal_ofFields (Nat.mod_lt _ (by decide))

/-- The fields of the pattern of a value, if it is one. -/
def toFields : FloatValue → Bool × Nat × Nat
  | .finite negative mantissa exponent =>
    if mantissa < 2 ^ 52 then (negative, 0, mantissa)
    else (negative, (exponent + 1075).toNat, mantissa - 2 ^ 52)
  | .infinite negative => (negative, 2047, 0)
  | .nan => (false, 2047, 1)

theorem toFields_ofFields {negative : Bool} {exponent fraction : Nat} (hf : fraction < 2 ^ 52)
    (hnan : ofFields negative exponent fraction ≠ .nan) :
    toFields (ofFields negative exponent fraction) = (negative, exponent, fraction) := by
  unfold ofFields at hnan ⊢
  split
  · rename_i hexponent
    rw [if_pos hexponent] at hnan
    split
    · rename_i hfraction
      rw [toFields, hexponent, hfraction]
    · rename_i hfraction
      exact absurd (if_neg hfraction) hnan
  · split
    · rename_i hexponent
      rw [toFields, if_pos hf, hexponent]
    · have hmantissa : ¬ 2 ^ 52 + fraction < 2 ^ 52 := by omega
      have hexponent : ((exponent : Int) - 1075 + 1075).toNat = exponent := by omega
      rw [toFields, if_neg hmantissa, hexponent, Nat.add_sub_cancel_left]

theorem toNat_eq_fields (bits : UInt64) :
    bits.toNat = (bits.toNat.testBit 63).toNat * 2 ^ 63 + bits.toNat / 2 ^ 52 % 2048 * 2 ^ 52 +
      bits.toNat % 2 ^ 52 := by
  have hlt := bits.toNat_lt
  rw [Nat.toNat_testBit]
  omega

/-- Patterns are told by their values, but for those of no number. -/
theorem decode_inj {a b : UInt64} (h : decode a = decode b) (hnan : decode a ≠ .nan) : a = b := by
  have hnan' : decode b ≠ .nan := h ▸ hnan
  have hfields := congrArg toFields h
  rw [decode_eq a] at hnan hfields
  rw [decode_eq b] at hnan' hfields
  have hlt (bits : UInt64) : bits.toNat % 2 ^ 52 < 2 ^ 52 := Nat.mod_lt _ (by decide)
  rw [toFields_ofFields (hlt a) hnan, toFields_ofFields (hlt b) hnan', Prod.mk.injEq,
    Prod.mk.injEq] at hfields
  obtain ⟨hsign, hexponent, hfraction⟩ := hfields
  apply UInt64.toNat_inj.1
  rw [toNat_eq_fields a, toNat_eq_fields b, hsign, hexponent, hfraction]

/-- Patterns are told by the numbers they denote, but for zeros and those of no number. -/
theorem eq_of_number_decode {a b : UInt64} (h : (decode a).number = (decode b).number)
    (hzero : (decode a).number ≠ .rational 0) (hnan : (decode a).number ≠ .nan) : a = b := by
  refine decode_inj (FloatValue.eq_of_number (normal_decode a) (normal_decode b) h hzero) ?_
  exact fun hdecode => hnan (by rw [hdecode]; rfl)

/-! ## Widening -/

theorem decode_ofNat {sign exponent fraction : Nat} (hs : sign < 2) (he : exponent < 2048)
    (hf : fraction < 2 ^ 52) :
    decode (UInt64.ofNat (sign <<< 63 + (exponent <<< 52 + fraction))) =
      ofFields (sign = 1) exponent fraction := by
  simp only [Nat.shiftLeft_eq]
  have hword : sign * 2 ^ 63 + (exponent * 2 ^ 52 + fraction) < 2 ^ 64 := by omega
  have hsign : (sign * 2 ^ 63 + (exponent * 2 ^ 52 + fraction)) / 2 ^ 63 % 2 = sign := by omega
  have hexponent : (sign * 2 ^ 63 + (exponent * 2 ^ 52 + fraction)) / 2 ^ 52 % 2048 = exponent := by
    omega
  have hfraction : (sign * 2 ^ 63 + (exponent * 2 ^ 52 + fraction)) % 2 ^ 52 = fraction := by omega
  rw [decode_eq, UInt64.toNat_ofNat_of_lt' hword, Nat.testBit_eq_decide_div_mod_eq, hsign, hexponent,
    hfraction]

theorem ofFields_of_normal (negative : Bool) {exponent : Nat} (fraction : Nat) (hpos : 0 < exponent)
    (hlt : exponent < 2047) :
    ofFields negative exponent fraction =
      .finite negative (2 ^ 52 + fraction) ((exponent : Int) - 1075) := by
  rw [ofFields, if_neg (Nat.ne_of_lt hlt), if_neg (Nat.ne_of_gt hpos)]

/-- A mantissa of fewer than 24 bits is shifted up to the highest place. -/
theorem number_ofFields_subnormal (negative : Bool) {fraction : Nat} (hpos : fraction ≠ 0)
    (hlt : fraction < 2 ^ 23) :
    (fraction - 1 <<< fraction.log2) <<< (52 - fraction.log2) < 2 ^ 52 ∧ fraction.log2 < 23 ∧
    (ofFields negative (fraction.log2 + 874)
      ((fraction - 1 <<< fraction.log2) <<< (52 - fraction.log2))).number =
      (FloatValue.finite negative fraction (-149)).number := by
  have hlog : fraction.log2 < 23 := (Nat.log2_lt hpos).2 hlt
  have hle := Nat.log2_self_le hpos
  have hlt' := Nat.lt_log2_self (n := fraction)
  generalize fraction.log2 = k at hlog hle hlt' ⊢
  have hpow : 2 ^ k * 2 ^ (52 - k) = 2 ^ 52 := by rw [← Nat.pow_add, show k + (52 - k) = 52 by omega]
  rw [Nat.one_shiftLeft, Nat.shiftLeft_eq]
  refine ⟨?_, hlog, ?_⟩
  · rw [← hpow]
    exact Nat.mul_lt_mul_of_pos_right (by omega) (Nat.two_pow_pos _)
  · have hmantissa : 2 ^ 52 + (fraction - 2 ^ k) * 2 ^ (52 - k) = fraction * 2 ^ (52 - k) := by
      rw [← hpow, ← Nat.add_mul, Nat.add_sub_cancel' hle]
    have hexponent : ((52 - k : Nat) : Int) + (((k + 874 : Nat) : Int) - 1075) = -149 := by omega
    rw [ofFields_of_normal negative _ (by omega) (by omega), hmantissa,
      FloatValue.number_finite_mul_two_pow, hexponent]

theorem number_ofFields_normal (negative : Bool) {exponent : Nat} (fraction : Nat)
    (hpos : 0 < exponent) (hlt : exponent < 255) :
    (ofFields negative (exponent + 896) (fraction <<< 29)).number =
      (FloatValue.finite negative (2 ^ 23 + fraction) ((exponent : Int) - 150)).number := by
  have hmantissa : 2 ^ 52 + fraction <<< 29 = (2 ^ 23 + fraction) * 2 ^ 29 := by
    rw [Nat.shiftLeft_eq]
    omega
  have hexponent : ((29 : Nat) : Int) + (((exponent + 896 : Nat) : Int) - 1075) = exponent - 150 := by
    omega
  rw [ofFields_of_normal negative _ (by omega) (by omega), hmantissa,
    FloatValue.number_finite_mul_two_pow, hexponent]

end Binary64

/-- The value of a 32-bit pattern. -/
def Binary32.decode (bits : UInt32) : FloatValue :=
  let negative := bits.toNat.testBit 31
  let exponent := bits.toNat >>> 23 % 256
  let fraction := bits.toNat % 1 <<< 23
  if exponent = 255 then
    if fraction = 0 then .infinite negative else .nan
  else if exponent = 0 then .finite negative fraction (-149)
  else .finite negative (1 <<< 23 + fraction) ((exponent : Int) - 150)

/-- A 32-bit pattern is widened to one of the same number. -/
theorem Binary64.number_decode_widen (bits : UInt32) :
    (decode (widen bits)).number = (Binary32.decode bits).number := by
  have hlt := bits.toNat_lt
  have hs : bits.toNat >>> 31 < 2 := by
    rw [Nat.shiftRight_eq_div_pow]
    omega
  have hnegative : bits.toNat.testBit 31 = decide (bits.toNat >>> 31 = 1) := by
    rw [Nat.testBit_eq_decide_div_mod_eq, ← Nat.shiftRight_eq_div_pow, Nat.mod_eq_of_lt hs]
  have he : bits.toNat >>> 23 % 256 < 256 := Nat.mod_lt _ (by decide)
  have hf : bits.toNat % 1 <<< 23 < 2 ^ 23 := Nat.mod_lt _ (by decide)
  simp only [widen, Binary32.decode, hnegative]
  generalize bits.toNat >>> 31 = sign at hs ⊢
  generalize bits.toNat >>> 23 % 256 = exponent at he ⊢
  generalize bits.toNat % 1 <<< 23 = fraction at hf ⊢
  have hf' : fraction <<< 29 < 2 ^ 52 := by
    rw [Nat.shiftLeft_eq]
    omega
  split
  · have hzero : fraction <<< 29 = 0 ↔ fraction = 0 := by
      rw [Nat.shiftLeft_eq]
      omega
    rw [decode_ofNat hs (by decide) hf', ofFields, if_pos rfl]
    simp only [hzero]
  · split
    · split
      · rename_i hfraction
        have hdecode := decode_ofNat hs (by decide : 0 < 2048) (by decide : 0 < 2 ^ 52)
        rw [Nat.zero_shiftLeft, Nat.zero_add] at hdecode
        rw [hdecode, hfraction]
        simp [ofFields, FloatValue.number]
      · rename_i hfraction
        obtain ⟨hbound, hlog, hnumber⟩ := number_ofFields_subnormal (sign = 1) hfraction hf
        rw [decode_ofNat hs (by omega) hbound, hnumber]
    · rename_i hinfinite hzero
      rw [decode_ofNat hs (by omega) hf', Nat.one_shiftLeft]
      exact number_ofFields_normal _ _ (by omega) (by omega)

end CuckooFilter
