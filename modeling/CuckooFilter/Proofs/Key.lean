import CuckooFilter.Key
import CuckooFilter.Proofs.Binary64
import CuckooFilter.Proofs.Bytes

/-!
# Numeric keys

A numeric key is hashed through the 17 bytes of the number it stands for (`Number.Encodes`): the two's
complement of an integer of 128 bits, or the one pattern of any other number. Two numbers have the same
bytes only if they are the same (`Number.Encodes.eq_iff`), so numeric keys collide exactly if they are
numerically equal, whatever their types (`Key.encoding_eq_iff`).
-/

namespace CuckooFilter

/-- An integer that a signed word of 128 bits holds. -/
def IsWord128 (n : Int) : Prop :=
  -2 ^ 127 ≤ n ∧ n < 2 ^ 127

instance (n : Int) : Decidable (IsWord128 n) :=
  inferInstanceAs (Decidable (_ ∧ _))

theorem toInt_ofInt_eq_iff {n : Int} : (BitVec.ofInt 128 n).toInt = n ↔ IsWord128 n := by
  rw [BitVec.toInt_ofInt, Int.bmod, IsWord128]
  split <;> omega

namespace Key

theorem integral_inj {m n : Int} (hm : IsWord128 m) (hn : IsWord128 n) :
    integral m = integral n ↔ m = n := by
  refine ⟨fun h => ?_, fun h => by rw [h]⟩
  have hnat := littleEndian_inj (BitVec.isLt _) (BitVec.isLt _) (List.cons.inj h).2
  have hword := congrArg BitVec.toInt (BitVec.eq_of_toNat_eq hnat)
  rwa [toInt_ofInt_eq_iff.2 hm, toInt_ofInt_eq_iff.2 hn] at hword

theorem fractional_inj {a b : UInt64} : fractional a = fractional b ↔ a = b := by
  refine ⟨fun h => ?_, fun h => by rw [h]⟩
  have hbytes := List.append_cancel_right (List.cons.inj h).2
  exact UInt64.toNat_inj.1 (littleEndian_inj a.toNat_lt b.toNat_lt hbytes)

/-- The first byte tells them apart. -/
theorem integral_ne_fractional (n : Int) (bits : UInt64) : integral n ≠ fractional bits := by
  intro h
  exact absurd (List.cons.inj h).1 (by decide)

end Key

namespace Number

/-- The bytes that a number is hashed by. -/
inductive Encodes : Number → Bytes → Prop
  | integral {n : Int} (hn : IsWord128 n) : Encodes (rational n) (Key.integral n)
  | fractional {bits : UInt64}
      (hword : ∀ n, IsWord128 n → (Binary64.decode bits).number ≠ rational n)
      (hnan : (Binary64.decode bits).number = nan → bits = Key.canonicalNaN) :
      Encodes (Binary64.decode bits).number (Key.fractional bits)

namespace Encodes

variable {x x' : Number} {bs bs' : Bytes}

theorem length_eq (h : Encodes x bs) : bs.length = 17 := by
  cases h with
  | integral => exact Key.length_integral _
  | fractional => exact Key.length_fractional _

/-- By the first byte, what stands for an integer is told from what does not. -/
theorem eq_iff (h : Encodes x bs) (h' : Encodes x' bs') : bs = bs' ↔ x = x' := by
  cases h with
  | integral hn =>
    cases h' with
    | integral hn' => rw [Key.integral_inj hn hn', rational.injEq, Int.cast_inj]
    | fractional hword' _ =>
      exact iff_of_false (Key.integral_ne_fractional _ _) fun h => hword' _ hn h.symm
  | @fractional bits hword hnan =>
    cases h' with
    | integral hn' => exact iff_of_false (Key.integral_ne_fractional _ _).symm (hword _ hn')
    | @fractional bits' hword' hnan' =>
      rw [Key.fractional_inj]
      refine ⟨fun h => by rw [h], fun h => ?_⟩
      by_cases hx : (Binary64.decode bits).number = nan
      · rw [hnan hx, hnan' (h ▸ hx)]
      · exact Binary64.eq_of_number_decode h (by exact_mod_cast hword 0 (by decide)) hx

end Encodes

end Number

namespace Key

/-- A pattern that does not denote an integer of 128 bits stands for itself, or for all patterns of no
number. -/
theorem encodes_fractional {bits : UInt64}
    (hword : ∀ n, IsWord128 n → (Binary64.decode bits).number ≠ .rational n) :
    (Binary64.decode bits).number.Encodes
      (fractional (if Binary64.decode bits = .nan then canonicalNaN else bits)) := by
  by_cases hnan : Binary64.decode bits = .nan
  · have hcanonical : Binary64.decode canonicalNaN = .nan := by decide
    rw [if_pos hnan, hnan, ← hcanonical]
    exact .fractional (fun n _ => by rw [hcanonical]; nofun) fun _ => rfl
  · rw [if_neg hnan]
    refine .fractional hword fun hnumber => ?_
    cases hvalue : Binary64.decode bits with
    | nan => exact absurd hvalue hnan
    | finite | infinite =>
      rw [hvalue] at hnumber
      cases hnumber

theorem encodes_float (bits : UInt64) : (Binary64.decode bits).number.Encodes (float bits) := by
  simp only [float]
  cases hinteger : (Binary64.decode bits).integer? with
  | some n =>
    have hnumber := FloatValue.integer?_eq_some_iff.1 hinteger
    dsimp only
    split
    · rename_i hn
      rw [hnumber]
      exact .integral (toInt_ofInt_eq_iff.1 hn)
    · rename_i hn
      refine encodes_fractional fun m hm hrational => ?_
      rw [hnumber, FloatValue.rational_intCast_inj, Option.some_inj] at hrational
      rw [hrational] at hn
      exact hn (toInt_ofInt_eq_iff.2 hm)
  | none =>
    refine encodes_fractional fun n _ hrational => ?_
    rw [FloatValue.integer?_eq_some_iff.2 hrational] at hinteger
    cases hinteger

/-- The number that a numeric key stands for. Integer types have at most 64 bits; whatever 128 bits
hold is no different. -/
inductive Denotes : Key → Number → Prop
  | integer {n : Int} (hn : IsWord128 n) : Denotes (.integer n) (.rational n)
  | float64 (bits : UInt64) : Denotes (.float64 bits) (Binary64.decode bits).number
  | float32 (bits : UInt32) : Denotes (.float32 bits) (Binary32.decode bits).number

theorem Denotes.encodes {k : Key} {x : Number} (h : k.Denotes x) : x.Encodes k.encoding := by
  cases h with
  | integer hn => exact .integral hn
  | float64 bits => exact encodes_float bits
  | float32 bits =>
    rw [← Binary64.number_decode_widen]
    exact encodes_float _

/-- Numeric keys are hashed by 17 bytes, and two of them by the same bytes exactly if they stand for
the same number, for the same infinity, or both for none. -/
theorem encoding_eq_iff {k k' : Key} {x x' : Number} (h : k.Denotes x) (h' : k'.Denotes x') :
    k.encoding.length = 17 ∧ k'.encoding.length = 17 ∧ (k.encoding = k'.encoding ↔ x = x') :=
  ⟨h.encodes.length_eq, h'.encodes.length_eq, h.encodes.eq_iff h'.encodes⟩

/-- The 32-bit pattern of minus three is the integer's key; that of `2 ^ 127`, just out of the range of
128 bits, is no key of `-2 ^ 127`, which is just in it. -/
theorem encoding_eq_iff_bounds :
    let k : Key := .float32 0xc0400000
    let low : Key := .float64 0xc7e0000000000000
    let high : Key := .float64 0x47e0000000000000
    k.Denotes (.rational (-3)) ∧ (integer (-3)).Denotes (.rational (-3)) ∧
      k.encoding.length = 17 ∧ (integer (-3)).encoding.length = 17 ∧
      k.encoding = (integer (-3)).encoding ∧
      low.Denotes (.rational (-2 ^ 127)) ∧ high.Denotes (.rational (2 ^ 127)) ∧
      low.encoding ≠ high.encoding := by
  intro k low high
  have hk : k.Denotes (.rational (-3)) := by
    have hnumber : (Binary32.decode 0xc0400000).number = .rational (-3) := by
      have hdecode : Binary32.decode 0xc0400000 = .finite true 12582912 (-22) := by decide
      rw [hdecode, FloatValue.number]
      norm_num
    exact hnumber ▸ .float32 0xc0400000
  have hinteger : (integer (-3)).Denotes (.rational (-3)) := by
    exact_mod_cast Denotes.integer (n := -3) (by decide)
  have hlow : low.Denotes (.rational (-2 ^ 127)) := by
    have hnumber : (Binary64.decode 0xc7e0000000000000).number = .rational (-2 ^ 127) := by
      have hdecode : Binary64.decode 0xc7e0000000000000 = .finite true (2 ^ 52) 75 := by decide
      rw [hdecode, FloatValue.number]
      norm_num
    exact hnumber ▸ .float64 0xc7e0000000000000
  have hhigh : high.Denotes (.rational (2 ^ 127)) := by
    have hnumber : (Binary64.decode 0x47e0000000000000).number = .rational (2 ^ 127) := by
      have hdecode : Binary64.decode 0x47e0000000000000 = .finite false (2 ^ 52) 75 := by decide
      rw [hdecode, FloatValue.number]
      norm_num
    exact hnumber ▸ .float64 0x47e0000000000000
  obtain ⟨hlength, hlength', hsame⟩ := encoding_eq_iff hk hinteger
  obtain ⟨-, -, hother⟩ := encoding_eq_iff hlow hhigh
  refine ⟨hk, hinteger, hlength, hlength', hsame.2 rfl, hlow, hhigh, fun h => ?_⟩
  have hbounds := Number.rational.inj (hother.1 h)
  norm_num at hbounds

end Key

end CuckooFilter
