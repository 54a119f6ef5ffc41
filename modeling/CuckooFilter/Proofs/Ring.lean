import CuckooFilter.Ring

/-!
# Intervals and their positions

A ring keeps the 256 intervals that end with the current one (`Kept`), and within those a position
names one interval: everything that the ring does with positions, it does with the intervals they
stand for, and as long as an interval is kept its position names no other (`Ring.orders_as_time`).

* `position_inj`: no two intervals kept have the same position;
* `recency_position`, `ofRecency_position`: recency counts from the oldest interval kept;
* `isNewer_position`, `distance_position`: positions compare as their intervals;
* `inRingRange_position`: the range to be pruned holds the intervals that will not be kept;
* `add_recency_position`: an interval that is still kept is read off the ring that has moved on.
-/

namespace CuckooFilter

/-- The position of an interval. -/
def position (interval : Nat) : Position :=
  BitVec.ofNat 8 interval

/-- Whether an interval is kept while `newest` is the current one. -/
def Kept (newest interval : Nat) : Prop :=
  newest ≤ interval + 255 ∧ interval ≤ newest

theorem toNat_position (n : Nat) : (position n).toNat = n % 256 := by
  rw [position, BitVec.toNat_ofNat]

theorem position_inj {newest m n : Nat} (hm : Kept newest m) (hn : Kept newest n) :
    position m = position n ↔ m = n := by
  obtain ⟨hm, hm'⟩ := hm
  obtain ⟨hn, hn'⟩ := hn
  rw [← BitVec.toNat_inj, toNat_position, toNat_position]
  omega

/-- An interval that is still kept when the ring moves on was kept before. -/
theorem Kept.mono {newest newest' n : Nat} (h : Kept newest n) (hle : newest ≤ newest')
    (hn : newest' ≤ n + 255) : Kept newest' n :=
  ⟨hn, Nat.le_trans h.2 hle⟩

theorem inRingRange_position {newest newest' n : Nat} (hn : Kept newest n)
    (hlt : newest < newest') (hle : newest' < newest + 256) :
    inRingRange (oldestPosition (position newest)) (position newest') (position n) =
      decide (n + 255 < newest') := by
  obtain ⟨hn, hn'⟩ := hn
  have hone : (1 : Position).toNat = 1 := rfl
  simp only [inRingRange, oldestPosition, BitVec.toNat_add, toNat_position, hone, ringSize,
    decide_eq_decide]
  omega

namespace Ring

variable {r : Ring} {newest m n : Nat}

theorem recency_position (hr : r.current = position newest) (hpos : 255 ≤ newest)
    (hn : Kept newest n) : r.recency (position n) = n - (newest - 255) := by
  obtain ⟨hn, hn'⟩ := hn
  simp only [recency, hr, toNat_position, ringSize]
  omega

theorem ofRecency_position (hr : r.current = position newest) (hpos : 255 ≤ newest)
    (hn : newest ≤ n + 255) : r.ofRecency (n - (newest - 255)) = position n := by
  apply BitVec.eq_of_toNat_eq
  simp only [ofRecency, hr, toNat_position, BitVec.toNat_ofNat]
  omega

theorem isNewer_position (hr : r.current = position newest) (hpos : 255 ≤ newest)
    (hm : Kept newest m) (hn : Kept newest n) :
    r.isNewer (position m) (position n) = decide (n < m) := by
  rw [isNewer, recency_position hr hpos hm, recency_position hr hpos hn]
  obtain ⟨hm, -⟩ := hm
  obtain ⟨hn, -⟩ := hn
  simp only [decide_eq_decide]
  omega

theorem distance_position (hr : r.current = position newest) (hpos : 255 ≤ newest)
    (hm : Kept newest m) (hn : Kept newest n) :
    r.distance (position m) (position n) = max m n - min m n := by
  rw [distance, recency_position hr hpos hm, recency_position hr hpos hn]
  obtain ⟨hm, -⟩ := hm
  obtain ⟨hn, -⟩ := hn
  omega

/-- Counted from the oldest interval kept, the recency of a position gives the interval back. -/
theorem add_recency_position (hr : r.current = position newest) (hpos : 255 ≤ newest)
    (hn : Kept newest n) : newest - 255 + r.recency (position n) = n := by
  rw [recency_position hr hpos hn]
  obtain ⟨hn, -⟩ := hn
  omega

/-- In a ring that stands at interval `newest`, the positions of the intervals kept are ordered, and as
far apart, as the intervals are in time. As the ring moves on by up to 255 intervals, the positions to
be pruned are those of the intervals that are left behind, and every other one still stands for the
interval it stood for. -/
theorem orders_as_time (hpos : 255 ≤ newest) (hr : r.current = position newest)
    (hm : Kept newest m) (hn : Kept newest n) :
    r.recency (position m) = m - (newest - 255) ∧
      r.ofRecency (m - (newest - 255)) = position m ∧
      (r.isNewer (position m) (position n) ↔ n < m) ∧
      r.distance (position m) (position n) = ((m : Int) - n).natAbs ∧
      ∀ newest', newest < newest' → newest' < newest + 256 →
        (inRingRange (oldestPosition (position newest)) (position newest') (position m) ↔
          m < newest' - 255) ∧
        (newest' - 255 ≤ m → ∀ r' : Ring, r'.current = position newest' →
          newest' - 255 + r'.recency (position m) = m) := by
  refine ⟨recency_position hr hpos hm, ofRecency_position hr hpos hm.1, ?_, ?_,
    fun newest' hlt hle => ⟨?_, fun hkept r' hr' => ?_⟩⟩
  · rw [isNewer_position hr hpos hm hn, decide_eq_true_iff]
  · rw [distance_position hr hpos hm hn]
    omega
  · rw [inRingRange_position hm hlt hle, decide_eq_true_iff]
    omega
  · have hpos' : 255 ≤ newest' := Nat.le_trans hpos (Nat.le_of_lt hlt)
    have hm' : Kept newest' m := hm.mono (Nat.le_of_lt hlt) (Nat.sub_le_iff_le_add.1 hkept)
    exact add_recency_position hr' hpos' hm'

/-- The intervals 255 and 256 stand where positions wrap around. The older one is the last that a ring
leaves behind as it moves on to interval 511. -/
theorem orders_as_time_wrapped :
    let r : Ring := ⟨44, 300 * 60, none⟩
    let r' : Ring := ⟨255, 511 * 60, none⟩
    r.current = position 300 ∧ Kept 300 256 ∧ Kept 300 255 ∧
      r.recency 0 = 211 ∧ r.ofRecency 211 = 0 ∧ r.isNewer 0 255 ∧ ¬ r.isNewer 255 0 ∧
      r.distance 0 255 = 1 ∧ inRingRange 45 255 255 ∧ ¬ inRingRange 45 255 0 ∧
      256 + r'.recency 0 = 256 := by
  intro r r'
  have hr : r.current = position 300 := rfl
  have hyoung : Kept 300 256 := ⟨by decide, by decide⟩
  have hold : Kept 300 255 := ⟨by decide, by decide⟩
  obtain ⟨hrecency, hposition, hnewer, hdistance, hlater⟩ :=
    orders_as_time (by decide) hr hyoung hold
  obtain ⟨-, -, holder, -, hearlier⟩ := orders_as_time (by decide) hr hold hyoung
  obtain ⟨hstays, hsame⟩ := hlater 511 (by decide) (by decide)
  obtain ⟨hgoes, -⟩ := hearlier 511 (by decide) (by decide)
  exact ⟨hr, hyoung, hold, hrecency, hposition, hnewer.2 (by decide), mt holder.1 (by decide),
    hdistance, hgoes.2 (by decide), mt hstays.1 (by decide), hsame (by decide) r' rfl⟩

end Ring

end CuckooFilter
