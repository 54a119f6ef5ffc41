import CuckooFilter.Proofs.ExpiringFilter.Alignment
import CuckooFilter.Proofs.ExpiringFilter.Sweep

/-!
# Filters whatever their tables hold

A filter has a table as its configuration asks for (`WellBuilt`), counts its entries and stands at the
position of its interval (`Consistent`). Nothing is said of what is in the table. Aging keeps this
(`consistent_age`), and it holds after every run (`consistent_run`).
-/

namespace CuckooFilter.ExpiringFilter

variable {R : Type}

/-- The filter has the table that its configuration asks for, whatever is in it. -/
structure WellBuilt (f : ExpiringFilter R) : Prop where
  config_ok : f.config.validate = .ok ()
  layout_eq : f.table.layout = f.config.layout

/-- The filter counts its entries, and its ring stands at the position of its interval. -/
structure Consistent (f : ExpiringFilter R) : Prop extends f.WellBuilt where
  count_eq : f.count = f.table.occupied
  current_eq : f.ring.current = position (f.ring.time / f.intervalSeconds)

variable {f : ExpiringFilter R}

theorem WellBuilt.seconds_pos (h : f.WellBuilt) : 0 < f.intervalSeconds :=
  (ExpiringConfig.intervalSeconds_bounds h.config_ok).1

theorem WellBuilt.isTableSize (h : f.WellBuilt) : IsTableSize f.table.size := by
  rw [← Table.layout_buckets, h.layout_eq]
  exact isTableSize_bucketCount (ExpiringConfig.validate_eq_ok.1 h.config_ok).1

theorem Consistent.counted (h : f.Consistent) : f.table.Counted f.config.layout f.count where
  layout_eq := h.layout_eq
  size := h.layout_eq ▸ h.isTableSize
  count_eq := by rw [h.count_eq, Table.card_entries]

/-! ## Aging -/

@[simp] theorem config_sweep (f : ExpiringFilter R) : f.sweep.state.config = f.config := by
  rw [state_sweep]
  split
  · rfl
  · rfl

@[simp] theorem config_age (f : ExpiringFilter R) (time : Nat) (position : Position) :
    (f.age time position).state.config = f.config :=
  age_keeps (P := fun g => g.config = f.config) rfl rfl fun hg => (config_sweep _).trans hg

theorem layout_pruneElapsed (f : ExpiringFilter R) (elapsed : Nat) (position : Position) :
    (f.pruneElapsed elapsed position).1.layout = f.table.layout := by
  unfold pruneElapsed
  split
  · rfl
  · split
    · exact Table.layout_prune ..
    · exact Table.layout_prune ..

theorem wellBuilt_advance (h : f.WellBuilt) (time : Nat) (position : Position) :
    (f.advance time position).state.WellBuilt :=
  ⟨h.config_ok, (layout_pruneElapsed ..).trans h.layout_eq⟩

theorem wellBuilt_sweep (h : f.WellBuilt) : f.sweep.state.WellBuilt := by
  rw [state_sweep]
  split
  · exact ⟨h.config_ok, h.layout_eq⟩
  · exact ⟨h.config_ok, (Table.layout_prune ..).trans h.layout_eq⟩

theorem wellBuilt_age (h : f.WellBuilt) (time : Nat) (position : Position) :
    (f.age time position).state.WellBuilt :=
  age_keeps h (wellBuilt_advance h time position) wellBuilt_sweep

theorem consistent_advance (h : f.Consistent) (n : Nat) :
    (f.advance (n * f.intervalSeconds) (position n)).state.Consistent where
  toWellBuilt := wellBuilt_advance h.toWellBuilt _ _
  count_eq := (counted_advance h.counted _ _).count_eq_occupied
  current_eq := congrArg position (Nat.mul_div_cancel n h.seconds_pos).symm

theorem consistent_sweep (h : f.Consistent) : f.sweep.state.Consistent where
  toWellBuilt := wellBuilt_sweep h.toWellBuilt
  count_eq := (counted_sweep h.counted).count_eq_occupied
  current_eq := by
    rw [state_sweep]
    split
    · exact h.current_eq
    · exact h.current_eq

theorem consistent_caughtUp (h : f.Consistent) (n : Nat) :
    (f.caughtUp (n * f.intervalSeconds) (position n)).Consistent := by
  unfold caughtUp
  split
  · exact consistent_advance h n
  · exact h

theorem consistent_age (h : f.Consistent) (n : Nat) :
    (f.age (n * f.intervalSeconds) (position n)).state.Consistent :=
  age_keeps h (consistent_advance h n) consistent_sweep

/-! ## Runs -/

/-- Whatever was added and restored, a filter counts its entries and stands at the position of its
interval, at the start of it. -/
theorem consistent_run [WordSource R] {config : ExpiringConfig} (hv : config.validate = .ok ())
    {words : R} (h : create config words = .ok f) (commands : List (Command UInt64)) :
    let g := commands.foldl execute f
    g.Consistent ∧ g.ring.time % g.intervalSeconds = 0 := by
  have hcounted := counted_run (counted_create h) commands
  have haligned := aligned_run (aligned_create h) hv commands
  obtain ⟨hstart, hcurrent, -⟩ := ringFits_iff.1 haligned.ring_fits
  rw [← haligned.seconds_eq] at hstart hcurrent
  refine ⟨⟨⟨?_, ?_⟩, hcounted.count_eq_occupied, hcurrent.symm⟩, hstart⟩
  · rw [haligned.config_eq]
    exact hv
  · rw [hcounted.layout_eq, haligned.config_eq]

end CuckooFilter.ExpiringFilter
