import CuckooFilter.Proofs.ExpiringFilter.Checked
import CuckooFilter.Proofs.PlainFilter.Checked

/-!
# Filters on a machine with words of 64 bits

A filter computes with bounded words, counts down, and asks for buckets by number. Whatever keys are
added at whatever times, and whatever images and snapshots are restored in between, it never asks for
a bucket that it does not have, reads beyond the end of an image, takes more from a number than that is,
divides by zero, or exceeds a word; nor is a walk that was undone left with another entry than it set
out with. Each sequence of commands does the same to a filter that checks all of this at each step
(`runs_within_bounds`).
-/

namespace CuckooFilter

/-- The table has the buckets that any key or fingerprint may be in. -/
structure Table.InRange {w v : Nat} {R : Type} (t : Table w v R) : Prop where
  primary_lt : ∀ key, (t.locate key).primary < t.size
  secondary_lt : ∀ key, (t.locate key).secondary < t.size
  alternate_lt : ∀ i < t.size, ∀ f, t.alternate i f < t.size

theorem Table.Counted.inRange {w v : Nat} {R : Type} {l : Layout} {t : Table w v R} {count : Nat}
    (h : t.Counted l count) (hw : 0 < w) : t.InRange where
  primary_lt key := (h.fits_locate hw key).primary_lt
  secondary_lt key := (h.fits_locate hw key).secondary_lt h.isTableSize
  alternate_lt _ hi _ := CuckooFilter.alternate_lt h.isTableSize _ hi

/-- The ring of an expiring filter stands on the start of an interval that is a word of nanoseconds,
and is not kept from showing it. -/
structure ExpiringFilter.RingInRange {R : Type} (f : ExpiringFilter R) (seconds : Nat) : Prop where
  time_mod : f.ring.time % seconds = 0
  current_eq : f.ring.current.toNat = f.ring.time / seconds % 256
  time_le : f.ring.time * nanosPerSecond ≤ 2 ^ 64 - 1
  currentInterval_eq : f.currentInterval? = some f.currentInterval

theorem ExpiringFilter.Aligned.ringInRange {R : Type} {config : ExpiringConfig}
    {f : ExpiringFilter R} (h : f.Aligned config) : f.RingInRange config.intervalSeconds := by
  obtain ⟨hmod, hcurrent, htime⟩ := ringFits_iff.1 h.ring_fits
  exact ⟨hmod, by rw [← hcurrent, toNat_position], Nat.le_sub_one_of_lt htime, h.currentInterval?_eq⟩

/-- No command sequence makes a check fail: a filter that checks each step ends up as the one that
does not. -/
theorem runs_within_bounds {R : Type} [WordSource R] (words : R) {plain : Config}
    (hplain : plain.validate = .ok ()) {expiring : ExpiringConfig}
    (hexpiring : expiring.validate = .ok ()) :
    (∃ f, PlainFilter.create plain words = .ok f ∧
        PlainFilter.create? plain words = some (.ok f) ∧
        ∀ commands : List (Command Unit),
          let g := commands.foldl PlainFilter.execute f
          commands.foldlM PlainFilter.execute? f = some g ∧ g.table.InRange) ∧
      ∃ f, ExpiringFilter.create expiring words = .ok f ∧
        ExpiringFilter.create? expiring words = some (.ok f) ∧
        ∀ commands : List (Command UInt64),
          let g := commands.foldl ExpiringFilter.execute f
          commands.foldlM ExpiringFilter.execute? f = some g ∧ g.table.InRange ∧
            g.RingInRange expiring.intervalSeconds := by
  constructor
  · obtain ⟨f, hf⟩ := PlainFilter.exists_create hplain words
    have hcounted := PlainFilter.counted_create hf
    refine ⟨f, hf, ?_, fun commands => ⟨?_, ?_⟩⟩
    · rw [PlainFilter.create?_eq, hf]
    · exact PlainFilter.run?_eq hcounted (bucketCount_le hplain) commands
    · exact (PlainFilter.counted_run hcounted commands).inRange (by decide)
  · obtain ⟨f, hf⟩ := ExpiringFilter.exists_create hexpiring words
    have hcounted := ExpiringFilter.counted_create hf
    have haligned := ExpiringFilter.aligned_create hf
    refine ⟨f, hf, ?_, fun commands => ⟨?_, ?_, ?_⟩⟩
    · rw [ExpiringFilter.create?_eq, hf]
    · exact ExpiringFilter.run?_eq hcounted haligned hexpiring commands
    · exact (ExpiringFilter.counted_run hcounted commands).inRange (by decide)
    · exact (ExpiringFilter.aligned_run haligned hexpiring commands).ringInRange

/-- Two filters of eight slots that take a full image, where the first then deletes a key and the
second adds one at the latest time there is. -/
theorem runs_within_bounds_small :
    let commands : List (Command Unit) :=
      [.restore 0 (List.replicate 16 255) none, .request (.delete (.text "a"))]
    let timed : List (Command UInt64) :=
      [.restore 0 (List.replicate 40 255) none, .request (.add (.text "a") 0xffffffffffffffff)]
    (∃ f g, PlainFilter.create { capacity := 8 } (fun _ => 0 : Nat → UInt64) = .ok f ∧
        commands.foldlM PlainFilter.execute? f = some g ∧ g.count = 8) ∧
      ∃ f g, ExpiringFilter.create { capacity := 8 } (fun _ => 0 : Nat → UInt64) = .ok f ∧
        timed.foldlM ExpiringFilter.execute? f = some g ∧ g.count = 1 ∧ g.RingInRange 60 := by
  intro commands timed
  have hplain : Config.validate { capacity := 8 } = .ok () := rfl
  have hexpiring : ExpiringConfig.validate { capacity := 8 } = .ok () := rfl
  obtain ⟨⟨f, hf, -, hrun⟩, g, hg, -, hrun'⟩ :=
    runs_within_bounds (fun _ => 0 : Nat → UInt64) hplain hexpiring
  cases hf
  cases hg
  refine ⟨⟨_, _, rfl, (hrun commands).1, by decide +kernel⟩, _, _, rfl, (hrun' timed).1,
    by decide +kernel, (hrun' timed).2.2⟩

end CuckooFilter
