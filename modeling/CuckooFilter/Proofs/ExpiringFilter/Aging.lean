import CuckooFilter.Proofs.ExpiringFilter.Sweep
import CuckooFilter.Proofs.Memory

/-!
# Aging as a memory does

An expiring filter represents a memory if its table holds the classes with the positions of the
intervals they were last seen in, and its ring stands where the memory does (`Represents`). A tag then
stands for the one interval still kept that has its position.

* `oldestLive_eq`, `sweepPosition_eq`: the intervals that the filter and the memory look for;
* `Represents.advance`, `Represents.sweep`, `Represents.age`: both forget the same classes.
-/

namespace CuckooFilter

namespace Memory

variable {α : Type} {m : Memory α}

/-- The classes and the positions of the intervals they were last seen in. -/
def entries (m : Memory α) : Multiset (α × Position) :=
  m.classes.val.map fun c => (c, position (m.seen c))

theorem fst_entries (m : Memory α) : m.entries.map Prod.fst = m.classes.val := by
  rw [entries, Multiset.map_map]
  exact Multiset.map_id _

theorem mem_entries {e : α × Position} :
    e ∈ m.entries ↔ e.1 ∈ m.classes ∧ position (m.seen e.1) = e.2 := by
  rw [entries, Multiset.mem_map]
  constructor
  · rintro ⟨c, hc, rfl⟩
    exact ⟨hc, rfl⟩
  · exact fun ⟨hc, he⟩ => ⟨e.1, hc, Prod.ext rfl he⟩

/-- Forgetting intervals takes out the entries at their positions. -/
theorem entries_forget {p : Position → Bool} {q : Nat → Prop} [DecidablePred q]
    (h : ∀ c ∈ m.classes, p (position (m.seen c)) ↔ q (m.seen c)) :
    (m.forget q).entries = m.entries.filter fun e => ¬ p e.2 := by
  rw [entries, entries, Multiset.filter_map]
  refine congrArg (Multiset.map _) ?_
  exact Multiset.filter_congr fun c hc => not_congr (h c hc).symm

variable [DecidableEq α]

theorem cons_entries_erase {c : α} (hc : c ∈ m.classes) :
    (c, position (m.seen c)) ::ₘ entries { m with classes := m.classes.erase c } = m.entries := by
  rw [entries, entries, Finset.erase_val, ← Multiset.map_cons (fun c => (c, position (m.seen c))),
    Multiset.cons_erase hc]

/-- The entries of the other classes do not change as one is seen. -/
theorem entries_update {c : α} (hc : c ∉ m.classes) (n : Nat) :
    entries { m with seen := Function.update m.seen c n } = m.entries := by
  refine Multiset.map_congr rfl fun d hd => ?_
  have hdc : d ≠ c := fun h => hc (h ▸ hd)
  simp [hdc]

theorem entries_insert {c : α} (hc : c ∉ m.classes) (n : Nat) :
    entries { m with classes := insert c m.classes, seen := Function.update m.seen c n } =
      (c, position n) ::ₘ m.entries := by
  rw [← entries_update hc n, entries, Finset.insert_val_of_notMem hc, Multiset.map_cons]
  simp [entries]

theorem cons_entries_seen {c : α} (hc : c ∈ m.classes) (n : Nat) :
    (c, position (m.seen c)) ::ₘ entries { m with seen := Function.update m.seen c n } =
      (c, position n) ::ₘ m.entries := by
  have hrest := Finset.notMem_erase c m.classes
  have hins := entries_insert (m := { m with classes := m.classes.erase c }) hrest n
  simp only [Finset.insert_erase hc] at hins
  rw [hins, Multiset.cons_swap, cons_entries_erase hc]

/-- The ring that stands where a memory does. -/
def ring (m : Memory α) (seconds : Nat) : Ring where
  current := position m.newest
  time := m.newest * seconds
  lru := m.cursor.map position

end Memory

namespace ExpiringFilter

variable {R : Type}

/-! ## Tags as intervals -/

section Tags

variable {t : Table 32 8 R} {m : Memory (EntryClass 32)} {r : Ring}

theorem mem_liveTags (ht : t.entries = m.entries) {q : Position} :
    q ∈ t.liveTags ↔ ∃ c ∈ m.classes, position (m.seen c) = q := by
  rw [← Multiset.mem_coe, ← Table.snd_entries, ht, Memory.entries, Multiset.map_map,
    Multiset.mem_map]
  rfl

theorem oldestLive_eq (hm : m.WellFormed) (ht : t.entries = m.entries)
    (hr : r.current = position m.newest) : oldestLive r t = m.oldest.map position := by
  cases ho : m.oldest with
  | none =>
    refine oldestLive_eq_none.2 (List.eq_nil_iff_forall_not_mem.2 fun q hq => ?_)
    obtain ⟨c, hc, -⟩ := (mem_liveTags ht).1 hq
    rw [Memory.oldest_eq_none.1 ho] at hc
    exact Finset.notMem_empty c hc
  | some n =>
    obtain ⟨⟨c, hc, rfl⟩, hle⟩ := Memory.oldest_eq_some.1 ho
    refine oldestLive_eq_some.2 ⟨(mem_liveTags ht).2 ⟨c, hc, rfl⟩, fun q hq => ?_⟩
    obtain ⟨d, hd, rfl⟩ := (mem_liveTags ht).1 hq
    rw [Ring.recency_position hr hm.newest_ge (hm.kept c hc),
      Ring.recency_position hr hm.newest_ge (hm.kept d hd)]
    exact Nat.sub_le_sub_right (hle d hd) _

theorem sweepPosition_eq (hm : m.WellFormed) (ht : t.entries = m.entries) (seconds : Nat) :
    sweepPosition (m.ring seconds) t = m.swept.map position := by
  have hold := oldestLive_eq hm ht (r := m.ring seconds) rfl
  rw [sweepPosition, Memory.swept, Memory.ring]
  cases hcursor : m.cursor with
  | none => exact hold
  | some n =>
    have hmem : position n ∈ t.liveTags ↔ ∃ c ∈ m.classes, m.seen c = n := by
      rw [mem_liveTags ht]
      refine exists_congr fun c => and_congr_right fun hc => ?_
      exact position_inj (hm.kept c hc) (hm.cursor_kept n hcursor)
    by_cases h : ∃ c ∈ m.classes, m.seen c = n
    · simp [hmem, h]
    · simp only [Option.map_some, List.contains_iff_mem, hmem, h, if_false]
      exact hold

end Tags

/-! ## Filters that represent a memory -/

/-- The filter has intervals of `seconds`; its table holds the classes of `m`, each once, at the
positions of their intervals, and its ring stands where `m` does. -/
structure Represents (l : Layout) (seconds : Nat) (f : ExpiringFilter R)
    (m : Memory (EntryClass 32)) : Prop where
  counted : f.table.Counted l f.count
  seconds_eq : f.intervalSeconds = seconds
  seconds_pos : 0 < seconds
  start_lt : 255 * seconds * nanosPerSecond < 2 ^ 64
  entries_eq : f.table.entries = m.entries
  ring_eq : f.ring = m.ring seconds
  time_lt : m.newest * seconds * nanosPerSecond < 2 ^ 64
  wellFormed : m.WellFormed

namespace Represents

variable {l : Layout} {seconds : Nat} {f : ExpiringFilter R} {m : Memory (EntryClass 32)}

theorem count_eq_card (h : Represents l seconds f m) : f.count = m.classes.card := by
  rw [h.counted.count_eq, h.entries_eq, Memory.entries, Multiset.card_map, Finset.card]

/-- Pruning the positions of some intervals forgets them. -/
theorem entries_prune (h : Represents l seconds f m) {p : Position → Bool} {q : Nat → Prop}
    [DecidablePred q] (hpq : ∀ c ∈ m.classes, p (position (m.seen c)) ↔ q (m.seen c)) :
    (f.table.prune p).1.entries = (m.forget q).entries := by
  rw [Table.entries_prune, h.entries_eq, Memory.entries_forget hpq]

/-- What a pruning leaves, with the ring where `m'` stands and its cursor at the oldest interval. -/
theorem of_prune (h : Represents l seconds f m) {m' : Memory (EntryClass 32)} {t : Table 32 8 R}
    {count : Nat} (hcounted : t.Counted l count) (hent : t.entries = m'.entries)
    (hw : m'.WellFormed) (htime : m'.newest * seconds * nanosPerSecond < 2 ^ 64)
    (hcursor : m'.cursor = m'.oldest) {r : Ring} (hr : r.current = position m'.newest) :
    Represents l seconds
      ⟨f.config, t, count, ⟨position m'.newest, m'.newest * seconds, oldestLive r t⟩⟩ m' where
  counted := hcounted
  seconds_eq := h.seconds_eq
  seconds_pos := h.seconds_pos
  start_lt := h.start_lt
  entries_eq := hent
  ring_eq := by rw [oldestLive_eq hw hent hr, Memory.ring, hcursor]
  time_lt := htime
  wellFormed := hw

theorem entries_pruneElapsed (h : Represents l seconds f m) {n : Nat} (hn : m.newest < n) :
    (f.pruneElapsed (n - m.newest) (position n)).1.entries =
      (m.forget (· < n - 255)).entries := by
  unfold pruneElapsed
  split
  · rename_i hzero
    have hnone : m.classes = ∅ := Finset.card_eq_zero.1 (h.count_eq_card ▸ hzero)
    rw [h.entries_eq]
    simp [Memory.entries, Memory.forget, hnone]
  · split
    · rename_i hlong
      refine h.entries_prune fun c hc => ?_
      have hk := (h.wellFormed.kept c hc).2
      simp only [true_iff, ringSize] at hlong ⊢
      omega
    · rename_i hshort
      simp only [ringSize] at hshort
      refine h.entries_prune fun c hc => ?_
      rw [h.ring_eq, Memory.ring, inRingRange_position (h.wellFormed.kept c hc) hn (by omega),
        decide_eq_true_iff]
      omega

/-- A later interval becomes the current one of both. -/
theorem advance (h : Represents l seconds f m) {n : Nat} (hn : m.newest < n)
    (htime : n * seconds * nanosPerSecond < 2 ^ 64) :
    Represents l seconds (f.advance (n * seconds) (position n)).state (m.advance n) := by
  have helapsed : (n * seconds - f.ring.time) / f.intervalSeconds = n - m.newest := by
    rw [h.ring_eq, h.seconds_eq, Memory.ring, ← Nat.sub_mul, Nat.mul_div_cancel _ h.seconds_pos]
  have hent := h.entries_pruneElapsed hn
  have hcounted := counted_pruneElapsed h.counted (n - m.newest) (position n)
  rw [state_advance, helapsed]
  refine h.of_prune hcounted ?_ (h.wellFormed.advance hn) htime rfl rfl
  exact hent

theorem sweep (h : Represents l seconds f m) : Represents l seconds f.sweep.state m.sweep := by
  have hswept := sweepPosition_eq h.wellFormed h.entries_eq seconds
  rw [state_sweep, h.ring_eq, hswept]
  cases hs : m.swept with
  | none =>
    have hnone := Memory.swept_eq_none hs
    have hent : f.table.entries = m.sweep.entries := by
      rw [h.entries_eq]
      simp [Memory.entries, Memory.sweep, Memory.forget, hnone]
    have hold : oldestLive (m.ring seconds) f.table = none := by
      rw [oldestLive_eq h.wellFormed h.entries_eq rfl, Memory.oldest_eq_none.2 hnone]
      rfl
    have hrep := h.of_prune h.counted hent h.wellFormed.sweep h.time_lt rfl (r := m.ring seconds) rfl
    rw [hold] at hrep
    exact hrep
  | some n =>
    obtain ⟨c, hc, rfl⟩ := Memory.exists_seen_of_swept hs
    have hent := h.entries_prune (p := (· == position (m.seen c))) (q := fun k => m.swept = some k)
      fun d hd => by
        rw [beq_iff_eq, position_inj (h.wellFormed.kept d hd) (h.wellFormed.kept c hc), hs,
          Option.some_inj, eq_comm]
    refine h.of_prune (h.counted.prune _) ?_ h.wellFormed.sweep h.time_lt rfl rfl
    exact hent

/-- An interval starts after the current one of the filter if it is later than that of the memory. -/
theorem later_iff (h : Represents l seconds f m) {n : Nat} :
    f.ring.time < n * seconds ↔ m.newest < n := by
  rw [h.ring_eq]
  exact Nat.mul_lt_mul_right h.seconds_pos

/-- A later interval becomes the current one of both, if it is one. -/
theorem caughtUp (h : Represents l seconds f m) {n : Nat}
    (htime : n * seconds * nanosPerSecond < 2 ^ 64) :
    Represents l seconds (f.caughtUp (n * seconds) (position n))
      (if m.newest < n then m.advance n else m) := by
  rw [ExpiringFilter.caughtUp]
  by_cases hn : m.newest < n
  · rw [if_pos hn, if_pos (h.later_iff.2 hn)]
    exact h.advance hn htime
  · rw [if_neg hn, if_neg (mt h.later_iff.1 hn)]
    exact h

theorem age (h : Represents l seconds f m) {n : Nat}
    (htime : n * seconds * nanosPerSecond < 2 ^ 64) :
    Represents l seconds (f.age (n * seconds) (position n)).state
      (m.age l.slots n) := by
  have hcaught := h.caughtUp htime
  rw [age_eq_caughtUp, Memory.age]
  generalize f.caughtUp (n * seconds) (position n) = g at hcaught ⊢
  generalize (if m.newest < n then _ else m) = m' at hcaught ⊢
  have hload : g.overloaded ↔ 4 * l.slots ≤ 5 * m'.classes.card := by
    rw [overloaded_iff hcaught.counted, hcaught.count_eq_card]
  by_cases hover : g.overloaded
  · simp only [if_pos hover, if_pos (hload.1 hover)]
    exact hcaught.sweep
  · simp only [if_neg hover, if_neg fun hle => hover (hload.2 hle)]
    exact hcaught

end Represents

end ExpiringFilter

end CuckooFilter
