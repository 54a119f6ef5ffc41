import CuckooFilter.Proofs.ExpiringFilter.Occupancy

/-!
# Sweeps

A capacity sweep empties one interval. Whatever the table and the cursor hold, an interval that has
entries is emptied as long as there is one (`mem_liveTags_of_sweepPosition`), so the filter then has
fewer entries (`count_sweep_lt`). Which interval that is depends on the cursor: the entries that go
are the least recent ones exactly if the cursor, where it stands on an interval that has entries,
stands on the least recent one of those (`evictsOldest_sweep_iff`).
-/

namespace CuckooFilter

variable {R : Type}

theorem Ring.recency_inj {r : Ring} {p q : Position} : r.recency p = r.recency q ↔ p = q :=
  ⟨fun h => by rw [← r.ofRecency_recency p, h, r.ofRecency_recency], congrArg r.recency⟩

/-- Of the entries `before`, those that are not among the entries `after` are no more recent than any
that is. -/
def Ring.EvictsOldest (r : Ring) (before after : Multiset (Entry 32 8)) : Prop :=
  ∀ e ∈ before, e ∉ after → ∀ e' ∈ after, r.recency e.2 ≤ r.recency e'.2

namespace ExpiringFilter

/-- The filter as a timestamp in the interval that starts at `time` finds it: moved on to that interval,
if it is a later one. -/
def caughtUp (f : ExpiringFilter R) (time : Nat) (position : Position) : ExpiringFilter R :=
  if f.ring.time < time then (f.advance time position).state else f

theorem age_eq_caughtUp (f : ExpiringFilter R) (time : Nat) (position : Position) :
    (f.age time position).state =
      if (f.caughtUp time position).overloaded then (f.caughtUp time position).sweep.state
      else f.caughtUp time position :=
  f.state_age time position

theorem overloaded_iff {l : Layout} {f : ExpiringFilter R} (h : f.table.Counted l f.count) :
    f.overloaded ↔ 4 * l.slots ≤ 5 * f.count := by
  rw [overloaded, decide_eq_true_iff, capacity, h.capacity_eq]

variable {r : Ring} {t : Table 32 8 R} {p : Position}

/-! ## The oldest interval that has entries -/

theorem oldestLive_eq_none : oldestLive r t = none ↔ t.liveTags = [] := by
  rw [oldestLive, Option.map_eq_none_iff, List.min?_eq_none_iff, List.map_eq_nil_iff]

theorem oldestLive_eq_some :
    oldestLive r t = some p ↔ p ∈ t.liveTags ∧ ∀ q ∈ t.liveTags, r.recency p ≤ r.recency q := by
  have hmin : (t.liveTags.map r.recency).min? = some (r.recency p) ↔
      p ∈ t.liveTags ∧ ∀ q ∈ t.liveTags, r.recency p ≤ r.recency q := by
    rw [List.min?_eq_some_iff, List.mem_map_of_injective fun _ _ => Ring.recency_inj.1,
      List.forall_mem_map]
  rw [← hmin, oldestLive, Option.map_eq_some_iff]
  constructor
  · rintro ⟨k, hk, rfl⟩
    obtain ⟨q, -, rfl⟩ := List.mem_map.1 (List.min?_mem hk)
    rw [hk, r.ofRecency_recency]
  · exact fun h => ⟨_, h, r.ofRecency_recency p⟩

/-! ## The interval that is emptied -/

/-- The oldest interval is emptied, unless the cursor stands on another that has entries. -/
theorem sweepPosition_cases (r : Ring) (t : Table 32 8 R) :
    sweepPosition r t = oldestLive r t ∨
      ∃ p ∈ t.liveTags, r.lru = some p ∧ sweepPosition r t = some p := by
  unfold sweepPosition
  cases r.lru with
  | none => exact .inl rfl
  | some p =>
    by_cases hlive : p ∈ t.liveTags
    · exact .inr ⟨p, hlive, rfl, if_pos (List.contains_iff_mem.2 hlive)⟩
    · exact .inl (if_neg (mt List.contains_iff_mem.1 hlive))

theorem sweepPosition_of_cursor (hp : p ∈ r.lru) (hlive : p ∈ t.liveTags) :
    sweepPosition r t = some p := by
  rw [sweepPosition, Option.mem_def.1 hp]
  exact if_pos (List.contains_iff_mem.2 hlive)

theorem mem_liveTags_of_sweepPosition (h : sweepPosition r t = some p) : p ∈ t.liveTags := by
  obtain hold | ⟨q, hlive, -, hq⟩ := sweepPosition_cases r t
  · exact (oldestLive_eq_some.1 (hold.symm.trans h)).1
  · obtain rfl := Option.some.inj (hq.symm.trans h)
    exact hlive

theorem liveTags_eq_nil_of_sweepPosition (h : sweepPosition r t = none) : t.liveTags = [] := by
  obtain hold | ⟨q, -, -, hq⟩ := sweepPosition_cases r t
  · exact oldestLive_eq_none.1 (hold.symm.trans h)
  · exact absurd (hq.symm.trans h) (Option.some_ne_none q)

variable {f : ExpiringFilter R}

/-- A sweep makes room. -/
theorem count_sweep_lt {l : Layout} (h : f.table.Counted l f.count) (hpos : 0 < f.count) :
    f.sweep.state.count < f.count := by
  rw [state_sweep]
  split
  · rename_i hnone
    have hzero := h.liveTags_eq_nil_iff.1 (liveTags_eq_nil_of_sweepPosition hnone)
    omega
  · rename_i position hposition
    have hpruned := Table.snd_prune_pos (mem_liveTags_of_sweepPosition hposition)
    dsimp only
    omega

/-- The cursor, if it stands on an interval that has entries, stands on the oldest one. -/
def CursorOldest (f : ExpiringFilter R) : Prop :=
  ∀ p ∈ f.ring.lru, p ∈ f.table.liveTags → ∀ q ∈ f.table.liveTags, f.ring.recency p ≤ f.ring.recency q

/-- With such a cursor the oldest interval is emptied. -/
theorem CursorOldest.sweepPosition_eq (h : f.CursorOldest) :
    sweepPosition f.ring f.table = oldestLive f.ring f.table := by
  obtain hold | ⟨p, hlive, hlru, hp⟩ := sweepPosition_cases f.ring f.table
  · exact hold
  · rw [hp]
    exact (oldestLive_eq_some.2 ⟨hlive, h p hlru hlive⟩).symm

theorem mem_entries_sweep (h : sweepPosition f.ring f.table = some p) {e : Entry 32 8} :
    e ∈ f.sweep.state.table.entries ↔ e ∈ f.table.entries ∧ e.2 ≠ p := by
  rw [state_sweep, h]
  dsimp only
  rw [Table.entries_prune, Multiset.mem_filter, beq_iff_eq]

/-- The entries that a sweep evicts are the oldest exactly if the cursor does not send it to others. -/
theorem evictsOldest_sweep_iff :
    f.ring.EvictsOldest f.table.entries f.sweep.state.table.entries ↔ f.CursorOldest := by
  constructor
  · intro hold p hp hlive q hq
    have hposition := sweepPosition_of_cursor hp hlive
    by_cases hqp : q = p
    · rw [hqp]
    · obtain ⟨e, he, rfl⟩ := Table.mem_liveTags.1 hlive
      obtain ⟨e', he', rfl⟩ := Table.mem_liveTags.1 hq
      exact hold e he (fun hstays => ((mem_entries_sweep hposition).1 hstays).2 rfl) e'
        ((mem_entries_sweep hposition).2 ⟨he', hqp⟩)
  · intro hcursor e he hevicted e' he'
    cases hposition : sweepPosition f.ring f.table with
    | none =>
      have hnil := liveTags_eq_nil_of_sweepPosition hposition
      exact absurd (Table.mem_liveTags.2 ⟨e, he, rfl⟩) (hnil ▸ List.not_mem_nil)
    | some p =>
      rw [mem_entries_sweep hposition] at hevicted he'
      have hep : e.2 = p := by_contra fun hne => hevicted ⟨he, hne⟩
      rw [hcursor.sweepPosition_eq] at hposition
      rw [hep]
      exact (oldestLive_eq_some.1 hposition).2 _ (Table.mem_liveTags.2 ⟨e', he'.1, rfl⟩)

end ExpiringFilter

end CuckooFilter
