import CuckooFilter.Proofs.ExpiringFilter.Consistency

/-!
# Aging whatever the table holds

A table may hold anything: entries of one class several times, and tags that no addition of this filter
has set. Still every tag stands for one interval, the one among the 256 up to the current one that has
its position (`Ring.intervalOf`). As a filter ages, the entries that go are those of the intervals that
are no longer kept (`MovesOn`) or those of one interval (`SweepsAt`); all other places are as they were,
and their tags stand for the same intervals (`ages_exactly`).

* `inRingRange_iff`: the positions to be pruned stand for the intervals that will not be kept;
* `intervalOf_of_le`: a position stands for the same interval as long as that is kept;
* `emptied_prune`: pruning empties places and touches no others.
-/

namespace CuckooFilter

/-! ## Positions as intervals -/

namespace Ring

variable {r r' : Ring} {seconds n : Nat} {p q : Position}

/-- The interval that a position stands for, where intervals are `seconds` long. It is negative for a
position that no interval since time zero has had yet. -/
def intervalOf (r : Ring) (seconds : Nat) (p : Position) : Int :=
  (r.time / seconds : Nat) - 255 + r.recency p

theorem recency_le (r : Ring) (p : Position) : r.recency p ≤ 255 :=
  Nat.le_of_lt_succ (Nat.mod_lt _ (by decide))

theorem intervalOf_le (r : Ring) (seconds : Nat) (p : Position) :
    r.intervalOf seconds p ≤ (r.time / seconds : Nat) := by
  have hle := r.recency_le p
  rw [intervalOf]
  omega

theorem intervalOf_le_iff : r.intervalOf seconds p ≤ r.intervalOf seconds q ↔
    r.recency p ≤ r.recency q := by
  rw [intervalOf, intervalOf]
  omega

theorem intervalOf_inj : r.intervalOf seconds p = r.intervalOf seconds q ↔ p = q := by
  rw [← r.recency_inj, intervalOf, intervalOf]
  omega

section Current

variable (hr : r.current = position (r.time / seconds))

include hr

/-- The position of an interval that is kept stands for that interval. -/
theorem intervalOf_position (hle : n ≤ r.time / seconds) (hkept : r.time / seconds ≤ n + 255) :
    r.intervalOf seconds (position n) = n := by
  simp only [intervalOf, recency, hr, ringSize, toNat_position]
  omega

variable (hlt : r.time / seconds < n)

include hlt

/-- What is pruned as the ring moves on to interval `n`; all of the ring if it moves on by 256. -/
theorem inRingRange_iff (hle : n ≤ r.time / seconds + 256) :
    inRingRange (oldestPosition r.current) (position n) p ↔ r.intervalOf seconds p < n - 255 := by
  have hp := p.isLt
  have hone : (1 : Position).toNat = 1 := rfl
  simp only [inRingRange, decide_eq_true_iff, intervalOf, recency, oldestPosition, hr, ringSize,
    BitVec.toNat_add, toNat_position, hone]
  omega

theorem intervalOf_of_le (hcurrent : r'.current = position n) (htime : r'.time / seconds = n)
    (hkept : n - 255 ≤ r.intervalOf seconds p) :
    r'.intervalOf seconds p = r.intervalOf seconds p := by
  have hp := p.isLt
  simp only [intervalOf, recency, hr, hcurrent, htime, ringSize, toNat_position] at hkept ⊢
  omega

end Current

end Ring

/-! ## Places that are emptied -/

namespace Table

variable {w v : Nat} {R : Type} {t t' : Table w v R}

/-- `t'` is `t`, but that the entries whose tags are `gone` are taken out of their places. -/
structure Emptied (t t' : Table w v R) (gone : Tag v → Prop) : Prop where
  layout_eq : t'.layout = t.layout
  words_eq : t'.words = t.words
  emptied : ∀ i < t.size, ∀ j, (t.slot i j).occupied → gone (t.slot i j).tag → t'.slot i j = .empty
  kept : ∀ i < t.size, ∀ j, ¬ ((t.slot i j).occupied ∧ gone (t.slot i j).tag) →
    t'.slot i j = t.slot i j

/-- The tags of the entries are those of the places that are in use. -/
theorem mem_liveTags_iff {tag : Tag v} :
    tag ∈ t.liveTags ↔ ∃ i < t.size, ∃ j, (t.slot i j).occupied ∧ (t.slot i j).tag = tag := by
  rw [mem_liveTags]
  constructor
  · rintro ⟨e, he, rfl⟩
    obtain ⟨i, hi, j, ho, rfl⟩ := mem_entries.1 he
    exact ⟨i, hi, j, ho, rfl⟩
  · rintro ⟨i, hi, j, ho, rfl⟩
    exact ⟨_, mem_entries.2 ⟨i, hi, j, ho, rfl⟩, rfl⟩

theorem emptied_prune (t : Table w v R) (p : Tag v → Bool) :
    t.Emptied (t.prune p).1 fun tag => p tag where
  layout_eq := layout_prune t p
  words_eq := rfl
  emptied i hi j ho hp := by
    have he : (t.slot i j).expired p := by rw [Slot.expired, ho, hp]; rfl
    rw [slot_prune t p hi, if_pos he]
  kept i hi j h := by
    have he : ¬ (t.slot i j).expired p := by rwa [Slot.expired, Bool.and_eq_true]
    rw [slot_prune t p hi, if_neg he]

/-- Nothing is emptied where no entry is in use. -/
theorem emptied_of_liveTags_eq_nil (h : t.liveTags = []) (gone : Tag v → Prop) :
    t.Emptied t gone where
  layout_eq := rfl
  words_eq := rfl
  emptied i hi j ho _ := by
    have hmem := mem_liveTags_iff.2 ⟨i, hi, j, ho, rfl⟩
    rw [h] at hmem
    cases hmem
  kept _ _ _ _ := rfl

namespace Emptied

variable {gone gone' : Tag v → Prop}

/-- Only what is said of the tags of entries matters. -/
theorem congr (h : t.Emptied t' gone) (hgone : ∀ tag ∈ t.liveTags, gone tag ↔ gone' tag) :
    t.Emptied t' gone' where
  layout_eq := h.layout_eq
  words_eq := h.words_eq
  emptied i hi j ho hg :=
    h.emptied i hi j ho ((hgone _ (mem_liveTags_iff.2 ⟨i, hi, j, ho, rfl⟩)).2 hg)
  kept i hi j hk := h.kept i hi j fun ⟨ho, hg⟩ =>
    hk ⟨ho, (hgone _ (mem_liveTags_iff.2 ⟨i, hi, j, ho, rfl⟩)).1 hg⟩

theorem size_eq (h : t.Emptied t' gone) : t'.size = t.size :=
  congrArg Layout.buckets h.layout_eq

/-- The entries that are left are those whose tags are not gone. -/
theorem mem_liveTags (h : t.Emptied t' gone) {tag : Tag v} :
    tag ∈ t'.liveTags ↔ tag ∈ t.liveTags ∧ ¬ gone tag := by
  rw [mem_liveTags_iff, mem_liveTags_iff, h.size_eq]
  constructor
  · rintro ⟨i, hi, j, ho, rfl⟩
    by_cases hg : (t.slot i j).occupied ∧ gone (t.slot i j).tag
    · rw [h.emptied i hi j hg.1 hg.2] at ho
      exact absurd rfl (Slot.occupied_iff.1 ho)
    · rw [h.kept i hi j hg] at ho ⊢
      exact ⟨⟨i, hi, j, ho, rfl⟩, fun hgone => hg ⟨ho, hgone⟩⟩
  · rintro ⟨⟨i, hi, j, ho, rfl⟩, hg⟩
    have hkept := h.kept i hi j fun hgone => hg hgone.2
    exact ⟨i, hi, j, by rwa [hkept], by rw [hkept]⟩

end Emptied

end Table

/-! ## Filters that age -/

namespace ExpiringFilter

variable {R : Type}

/-- The interval that a tag stands for. -/
def intervalOf (f : ExpiringFilter R) (tag : Position) : Int :=
  f.ring.intervalOf f.intervalSeconds tag

/-- An entry is of the interval at `p`, and none is of an earlier one. -/
def Oldest (f : ExpiringFilter R) (p : Position) : Prop :=
  p ∈ f.table.liveTags ∧ ∀ q ∈ f.table.liveTags, f.intervalOf p ≤ f.intervalOf q

/-- `g` is `f` moved on to interval `n`: the intervals before the 256 up to that one are gone. -/
structure MovesOn (f g : ExpiringFilter R) (n : Nat) : Prop where
  config_eq : g.config = f.config
  current_eq : g.ring.current = position n
  time_eq : g.ring.time = n * f.intervalSeconds
  emptied : f.table.Emptied g.table fun tag => f.intervalOf tag < n - 255
  intervalOf_eq : ∀ tag ∈ g.table.liveTags, g.intervalOf tag = f.intervalOf tag
  lru_iff : ∀ p, g.ring.lru = some p ↔ g.Oldest p

/-- `g` is `f` without the interval at `p`, that of the cursor if it has entries and otherwise the
oldest one that has. -/
structure SweepsAt (f g : ExpiringFilter R) (p : Position) : Prop where
  config_eq : g.config = f.config
  current_eq : g.ring.current = f.ring.current
  time_eq : g.ring.time = f.ring.time
  live : p ∈ f.table.liveTags
  of_cursor : ∀ q ∈ f.ring.lru, q ∈ f.table.liveTags → p = q
  of_no_cursor : (∀ q ∈ f.ring.lru, q ∉ f.table.liveTags) → f.Oldest p
  emptied : f.table.Emptied g.table fun tag => f.intervalOf tag = f.intervalOf p
  intervalOf_eq : ∀ tag, g.intervalOf tag = f.intervalOf tag
  lru_iff : ∀ p, g.ring.lru = some p ↔ g.Oldest p

variable {f g : ExpiringFilter R} {n : Nat} {p : Position}

/-- What a cursor is set to is the oldest interval that has entries. -/
theorem oldestLive_eq_some_iff : oldestLive f.ring f.table = some p ↔ f.Oldest p := by
  rw [oldestLive_eq_some, Oldest]
  exact and_congr_right fun _ => forall₂_congr fun _ _ => Ring.intervalOf_le_iff.symm

theorem lru_eq_some_iff (hlru : f.ring.lru = oldestLive f.ring f.table) :
    f.ring.lru = some p ↔ f.Oldest p := by
  rw [hlru, oldestLive_eq_some_iff]

/-! ### Moving on -/

theorem time_lt_iff (h : f.WellBuilt) :
    f.ring.time < n * f.intervalSeconds ↔ f.ring.time / f.intervalSeconds < n :=
  (Nat.div_lt_iff_lt_mul h.seconds_pos).symm

/-- Intervals that have passed when interval `n` begins leave at most a part of one more. -/
theorem WellBuilt.lt_of_not_elapsed (h : f.WellBuilt) {k : Nat}
    (hk : ¬ k ≤ (n * f.intervalSeconds - f.ring.time) / f.intervalSeconds) :
    n < f.ring.time / f.intervalSeconds + k + 1 := by
  have hdiv := Nat.div_add_mod f.ring.time f.intervalSeconds
  have hmod := Nat.mod_lt f.ring.time h.seconds_pos
  rw [Nat.le_div_iff_mul_le h.seconds_pos] at hk
  refine Nat.lt_of_mul_lt_mul_right (a := f.intervalSeconds) ?_
  rw [Nat.add_mul, Nat.add_mul, Nat.one_mul, Nat.mul_comm (f.ring.time / f.intervalSeconds)]
  omega

theorem WellBuilt.le_of_elapsed (h : f.WellBuilt) {k : Nat} (hpos : 0 < k)
    (hk : k ≤ (n * f.intervalSeconds - f.ring.time) / f.intervalSeconds) :
    f.ring.time / f.intervalSeconds + k ≤ n := by
  have hseconds := Nat.mul_pos hpos h.seconds_pos
  rw [Nat.le_div_iff_mul_le h.seconds_pos] at hk
  rw [← Nat.add_mul_div_right _ _ h.seconds_pos]
  refine Nat.div_le_of_le_mul ?_
  rw [Nat.mul_comm f.intervalSeconds n]
  omega

/-- What is pruned as interval `n` begins, by either way of pruning or none, are the intervals that are
no longer kept. -/
theorem emptied_pruneElapsed (h : f.Consistent) (hn : f.ring.time / f.intervalSeconds < n) :
    f.table.Emptied
      (f.pruneElapsed ((n * f.intervalSeconds - f.ring.time) / f.intervalSeconds) (position n)).1
      fun tag => f.intervalOf tag < n - 255 := by
  unfold pruneElapsed
  split
  · rename_i hzero
    exact Table.emptied_of_liveTags_eq_nil (h.counted.liveTags_eq_nil_iff.2 hzero) _
  · split
    · rename_i hlong
      have hall := h.toWellBuilt.le_of_elapsed (by decide) hlong
      refine (Table.emptied_prune _ _).congr fun tag _ => iff_of_true rfl ?_
      have hle := f.ring.intervalOf_le f.intervalSeconds tag
      rw [ringSize] at hall
      rw [intervalOf]
      omega
    · rename_i hshort
      have hle := Nat.le_of_lt_succ (h.toWellBuilt.lt_of_not_elapsed hshort)
      exact (Table.emptied_prune _ _).congr fun tag _ => Ring.inRingRange_iff h.current_eq hn hle

theorem movesOn_advance (h : f.Consistent) (hn : f.ring.time / f.intervalSeconds < n) :
    f.MovesOn (f.advance (n * f.intervalSeconds) (position n)).state n where
  config_eq := rfl
  current_eq := rfl
  time_eq := rfl
  emptied := emptied_pruneElapsed h hn
  intervalOf_eq tag htag := by
    have hkept := ((emptied_pruneElapsed h hn).mem_liveTags.1 htag).2
    exact Ring.intervalOf_of_le h.current_eq hn rfl (Nat.mul_div_cancel n h.seconds_pos)
      (not_lt.1 hkept)
  lru_iff _ := lru_eq_some_iff rfl

/-! ### Sweeping -/

theorem Consistent.exists_sweepPosition (h : f.Consistent) (hload : 4 * f.capacity ≤ 5 * f.count) :
    ∃ p, sweepPosition f.ring f.table = some p := by
  have hslots : 0 < f.config.layout.slots := Nat.mul_pos h.counted.size.pos (by decide)
  rw [capacity, h.counted.capacity_eq] at hload
  refine Option.ne_none_iff_exists'.1 fun hnone => ?_
  have hzero := h.counted.liveTags_eq_nil_iff.1 (liveTags_eq_nil_of_sweepPosition hnone)
  omega

theorem sweepsAt_sweep (hp : sweepPosition f.ring f.table = some p) :
    f.SweepsAt f.sweep.state p := by
  have hcursor : ∀ q ∈ f.ring.lru, q ∈ f.table.liveTags → p = q := fun q hq hlive =>
    Option.some.inj (hp.symm.trans (sweepPosition_of_cursor hq hlive))
  have hoff : (∀ q ∈ f.ring.lru, q ∉ f.table.liveTags) → f.Oldest p := fun hdead => by
    obtain hold | ⟨q, hlive, hq, -⟩ := sweepPosition_cases f.ring f.table
    · exact oldestLive_eq_some_iff.1 (hold.symm.trans hp)
    · exact absurd hlive (hdead q hq)
  rw [state_sweep, hp]
  exact {
    config_eq := rfl
    current_eq := rfl
    time_eq := rfl
    live := mem_liveTags_of_sweepPosition hp
    of_cursor := hcursor
    of_no_cursor := hoff
    emptied := (Table.emptied_prune _ _).congr fun tag _ => by
      rw [beq_iff_eq]
      exact Ring.intervalOf_inj.symm
    intervalOf_eq _ := rfl
    lru_iff _ := lru_eq_some_iff rfl }

/-! ### Aging -/

/-- Timestamps in the intervals that are kept are not too old for a filter that stands on the start of
an interval. -/
theorem not_lt_windowStart (hstart : f.ring.time % f.intervalSeconds = 0)
    (hkept : (f.ring.time / f.intervalSeconds : Nat) - 255 ≤ (n : Int)) :
    ¬ n * f.intervalSeconds < f.ring.windowStart f.intervalSeconds := by
  have hmul := Nat.mul_le_mul_right f.intervalSeconds
    (show f.ring.time / f.intervalSeconds ≤ n + 255 by omega)
  rw [Nat.div_mul_cancel (Nat.dvd_of_mod_eq_zero hstart), Nat.add_mul] at hmul
  rw [Ring.windowStart, ringSize, Nat.mul_comm f.intervalSeconds]
  omega

/-- Before it stores a key, an addition moves the filter on if the timestamp is in a later interval, and
then sweeps one interval if four fifths of the slots are in use. What is not said to go stays in its
place and stands for the interval it stood for. -/
theorem ages_exactly [WordSource R] (h : f.Consistent) (timestamp : Nat) :
    let n := f.interval timestamp
    let moved := f.caughtUp (n * f.intervalSeconds) (position n)
    let aged := (f.age (n * f.intervalSeconds) (position n)).state
    (moved.Consistent ∧ aged.Consistent) ∧
      (if f.ring.time / f.intervalSeconds < n then f.MovesOn moved n else moved = f) ∧
      (if 4 * moved.capacity ≤ 5 * moved.count then ∃ p, moved.SweepsAt aged p else aged = moved) ∧
      ∀ key, (f.add key timestamp).answer ≠ .ok .expired ∨
          f.ring.time % f.intervalSeconds = 0 ∧
            (f.ring.time / f.intervalSeconds : Nat) - 255 ≤ (n : Int) →
        (f.add key timestamp).answer = (aged.store key (position n)).answer ∧
          (f.add key timestamp).state = (aged.store key (position n)).state := by
  intro n moved aged
  have hmoved : moved.Consistent := consistent_caughtUp h n
  have haged : aged = if moved.overloaded then moved.sweep.state else moved := f.age_eq_caughtUp _ _
  refine ⟨⟨hmoved, consistent_age h n⟩, ?_, ?_, fun key hkept => ?_⟩
  · split
    · rename_i hlater
      have hadvanced : moved = (f.advance (n * f.intervalSeconds) (position n)).state :=
        if_pos ((time_lt_iff h.toWellBuilt).2 hlater)
      rw [hadvanced]
      exact movesOn_advance h hlater
    · rename_i hbegun
      exact if_neg (mt (time_lt_iff h.toWellBuilt).1 hbegun)
  · split
    · rename_i hload
      have hover : moved.overloaded := decide_eq_true hload
      obtain ⟨p, hp⟩ := hmoved.exists_sweepPosition hload
      rw [haged, if_pos hover]
      exact ⟨p, sweepsAt_sweep hp⟩
    · rename_i hload
      have hunder : ¬ moved.overloaded := mt of_decide_eq_true hload
      rw [haged, if_neg hunder]
  · obtain hanswer | ⟨hstart, hkept⟩ := hkept
    · exact f.add_of_ne_expired key timestamp hanswer
    · exact f.add_of_kept key timestamp (not_lt_windowStart hstart hkept)

/-- An image has filled the table with one class over and over, and the cursor stands where nothing is.
Two intervals on, the intervals 45 and 46 are gone, and of the others the oldest one, which is 47 and
has two entries. -/
theorem ages_exactly_small :
    let bucket (a b c d : Tag 8) : Bucket 32 8 := ⟨#v[⟨1, a⟩, ⟨1, b⟩, ⟨1, c⟩, ⟨1, d⟩]⟩
    let f : ExpiringFilter (Nat → UInt64) :=
      ⟨{ capacity := 8, hash := fun _ _ => 0 },
        ⟨#[bucket 44 47 45 255, bucket 0 47 43 44], fun _ _ => 0, fun _ => 0⟩, 8,
        ⟨44, 300 * 60, some 7⟩⟩
    let n := f.interval (302 * 60 * nanosPerSecond)
    let moved := f.caughtUp (n * f.intervalSeconds) (position n)
    let aged := (f.age (n * f.intervalSeconds) (position n)).state
    f.Consistent ∧ n = 302 ∧ f.MovesOn moved n ∧ moved.count = 7 ∧ moved.ring.lru = some 47 ∧
      (∃ p, moved.SweepsAt aged p) ∧ aged.count = 5 ∧ aged.ring.lru = some 255 := by
  intro bucket f n moved aged
  have hf : f.Consistent :=
    ⟨⟨rfl, congrArg (Layout.mk _) (by decide +kernel)⟩, by decide +kernel, by decide +kernel⟩
  obtain ⟨-, hmoved, haged, -⟩ := ages_exactly hf (302 * 60 * nanosPerSecond)
  rw [if_pos (by decide +kernel)] at hmoved haged
  exact ⟨hf, by decide +kernel, hmoved, by decide +kernel, by decide +kernel, haged,
    by decide +kernel, by decide +kernel⟩

end ExpiringFilter

end CuckooFilter
