import CuckooFilter.Proofs.ExpiringFilter.Occupancy

/-!
# The ring of an expiring filter stays aligned

Whatever the table holds, and whatever images and snapshots were restored, the ring stands on the start
of an interval at the position of that interval (`ringFits`), so that every filter accepts the ring of
every other one with the same interval (`ExpiringFilter.aligned_run`).
-/

namespace CuckooFilter.ExpiringFilter

variable {R : Type}

theorem ringFits_iff {seconds : Nat} {r : Ring} :
    ringFits seconds r ↔ r.time % seconds = 0 ∧ position (r.time / seconds) = r.current ∧
      r.time * nanosPerSecond < 2 ^ 64 := by
  simp only [ringFits, Bool.and_eq_true, beq_iff_eq, decide_eq_true_iff, and_assoc, position]
  exact Iff.rfl

/-- The start of an interval that a timestamp lies in. -/
theorem ringFits_interval {seconds n : Nat} (hpos : 0 < seconds)
    (htime : n * seconds * nanosPerSecond < 2 ^ 64) (lru : Option Position) :
    ringFits seconds ⟨position n, n * seconds, lru⟩ :=
  ringFits_iff.2 ⟨Nat.mul_mod_left .., by rw [Nat.mul_div_cancel _ hpos], htime⟩

/-- The filter has the configuration it was created with, and its ring is aligned. -/
structure Aligned (config : ExpiringConfig) (f : ExpiringFilter R) : Prop where
  config_eq : f.config = config
  ring_fits : ringFits config.intervalSeconds f.ring

section Operations

variable {config : ExpiringConfig} {f : ExpiringFilter R}

theorem Aligned.seconds_eq (h : f.Aligned config) : f.intervalSeconds = config.intervalSeconds :=
  congrArg ExpiringConfig.intervalSeconds h.config_eq

theorem ringFits_start (hv : config.validate = .ok ()) :
    ringFits config.intervalSeconds (.start config.intervalSeconds) := by
  obtain ⟨hpos, hmax⟩ := ExpiringConfig.intervalSeconds_bounds hv
  refine ringFits_interval hpos ?_ none
  simp only [nanosPerSecond]
  omega

theorem aligned_create {words : R} (h : create config words = .ok f) : f.Aligned config := by
  unfold create at h
  split at h
  · cases h
  · rename_i hv
    obtain rfl := Except.ok.inj h
    exact ⟨rfl, ringFits_start hv⟩

theorem aligned_advance (h : f.Aligned config) (hpos : 0 < config.intervalSeconds) {n : Nat}
    (htime : n * config.intervalSeconds * nanosPerSecond < 2 ^ 64) :
    (f.advance (n * config.intervalSeconds) (position n)).state.Aligned config := by
  rw [state_advance]
  exact ⟨h.config_eq, ringFits_interval hpos htime _⟩

theorem aligned_sweep (h : f.Aligned config) : f.sweep.state.Aligned config := by
  rw [state_sweep]
  split
  · exact ⟨h.config_eq, h.ring_fits⟩
  · exact ⟨h.config_eq, h.ring_fits⟩

theorem aligned_age (h : f.Aligned config) (hpos : 0 < config.intervalSeconds) {n : Nat}
    (htime : n * config.intervalSeconds * nanosPerSecond < 2 ^ 64) :
    (f.age (n * config.intervalSeconds) (position n)).state.Aligned config :=
  age_keeps h (aligned_advance h hpos htime) aligned_sweep

theorem aligned_store [WordSource R] (h : f.Aligned config) (key : Key) (position : Position) :
    (f.store key position).state.Aligned config := by
  rw [store_eq]
  split
  · dsimp only
    split
    · exact ⟨h.config_eq, h.ring_fits⟩
    · exact h
  · dsimp only
    split
    · exact ⟨h.config_eq, h.ring_fits⟩
    · exact ⟨h.config_eq, h.ring_fits⟩

theorem aligned_add [WordSource R] (h : f.Aligned config) (hpos : 0 < config.intervalSeconds)
    (key : Key) (timestamp : UInt64) : (f.add key timestamp.toNat).state.Aligned config := by
  have htime := intervalAt_lt f.intervalSeconds timestamp
  by_cases hold : f.interval timestamp.toNat * f.intervalSeconds <
      f.ring.windowStart f.intervalSeconds
  · rw [add_of_expired f key _ hold]
    exact h
  · rw [(add_of_kept f key _ hold).2]
    rw [h.seconds_eq] at htime ⊢
    rw [interval_toNat, h.seconds_eq]
    exact aligned_store (aligned_age h hpos htime) _ _

theorem aligned_delete (h : f.Aligned config) (key : Key) : (f.delete key).1.Aligned config := by
  rw [delete_eq]
  split
  · exact ⟨h.config_eq, h.ring_fits⟩
  · exact h

theorem aligned_restore (h : f.Aligned config) (claimed : Nat) (image : Bytes)
    (version : Option Nat) : (f.restore claimed image version).state.Aligned config := by
  rw [state_restore]
  split
  · exact ⟨h.config_eq, h.ring_fits⟩
  · exact h

/-- The ring of a snapshot that passes the check is aligned. -/
theorem ringFits_of_checkSnapshot {s : Snapshot} (h : f.checkSnapshot s = .ok ()) {r : Ring}
    (hr : s.ring = some r) : ringFits f.intervalSeconds r := by
  unfold checkSnapshot at h
  rw [hr] at h
  split at h
  · cases h
  · split at h
    · cases h
    · dsimp only at h
      split at h
      · assumption
      · cases h

theorem aligned_restoreSnapshot (h : f.Aligned config) (s : Snapshot) :
    (f.restoreSnapshot s).state.Aligned config := by
  rw [state_restoreSnapshot]
  split
  · exact h
  · rename_i hcheck
    have hrestored := aligned_restore h s.count s.data (some s.version)
    dsimp only
    split
    · refine ⟨hrestored.config_eq, ?_⟩
      cases hr : s.ring with
      | none => exact hrestored.ring_fits
      | some r =>
        have hfits := ringFits_of_checkSnapshot hcheck hr
        rwa [h.seconds_eq] at hfits
    · exact hrestored

theorem aligned_execute [WordSource R] (h : f.Aligned config) (hv : config.validate = .ok ())
    (command : Command UInt64) : (f.execute command).Aligned config := by
  have hpos := (ExpiringConfig.intervalSeconds_bounds hv).1
  cases command with
  | request request =>
    cases request with
    | add key timestamp => exact aligned_add h hpos key timestamp
    | query key => exact h
    | delete key => exact aligned_delete h key
    | clear => exact ⟨h.config_eq, by rw [← h.config_eq] at hv ⊢; exact ringFits_start hv⟩
  | restore claimed image version => exact aligned_restore h claimed image version
  | restoreSnapshot snapshot => exact aligned_restoreSnapshot h snapshot

theorem aligned_run [WordSource R] (h : f.Aligned config) (hv : config.validate = .ok ())
    (commands : List (Command UInt64)) : (commands.foldl execute f).Aligned config := by
  induction commands generalizing f with
  | nil => exact h
  | cons command commands ih => exact ih (aligned_execute h hv command)

end Operations

end CuckooFilter.ExpiringFilter
