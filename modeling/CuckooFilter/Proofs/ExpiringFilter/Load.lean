import CuckooFilter.Proofs.ExpiringFilter.Sweep

/-!
# The load of an expiring filter

A filter sweeps before it takes another key once four fifths of its slots are in use, and a sweep
makes room for that key. So an addition leaves a filter above that limit no fuller than it was, and
one below it at most at the limit, wherever its entries and its cursor came from
(`ExpiringFilter.load_bounded`).
-/

namespace CuckooFilter

/-- Four fifths of the slots, rounded up. -/
def Layout.loadLimit (l : Layout) : Nat :=
  (4 * l.slots + 4) / 5

namespace ExpiringFilter

variable {R : Type} {l : Layout} {f : ExpiringFilter R}

theorem counted_caughtUp (h : f.table.Counted l f.count) (time : Nat) (position : Position) :
    (f.caughtUp time position).table.Counted l (f.caughtUp time position).count := by
  unfold caughtUp
  split
  · exact counted_advance h time position
  · exact h

theorem count_caughtUp_le (f : ExpiringFilter R) (time : Nat) (position : Position) :
    (f.caughtUp time position).count ≤ f.count := by
  unfold caughtUp
  split
  · exact Nat.sub_le ..
  · exact Nat.le_refl _

theorem count_delete_le (f : ExpiringFilter R) (key : Key) : (f.delete key).1.count ≤ f.count := by
  rw [delete_eq]
  split
  · exact Nat.sub_le ..
  · exact Nat.le_refl _

theorem count_create {config : ExpiringConfig} {words : R} (h : create config words = .ok f) :
    f.count = 0 := by
  unfold create at h
  split at h
  · cases h
  · obtain rfl := Except.ok.inj h
    rfl

/-- Aging takes entries out of a filter that is loaded. -/
theorem count_age (h : f.table.Counted l f.count) (time : Nat) (position : Position) :
    (f.age time position).state.count ≤ f.count ∧
      (5 * (f.age time position).state.count < 4 * l.slots ∨
        (f.age time position).state.count < f.count) := by
  have hcounted := counted_caughtUp h time position
  have hle := count_caughtUp_le f time position
  rw [age_eq_caughtUp]
  generalize f.caughtUp time position = g at hcounted hle
  by_cases hover : g.overloaded
  · have hslots : 0 < l.slots := Nat.mul_pos hcounted.size.pos (by decide)
    have hload := (overloaded_iff hcounted).1 hover
    have hlt := count_sweep_lt hcounted (by omega)
    rw [if_pos hover]
    omega
  · have hload := mt (overloaded_iff hcounted).2 hover
    rw [if_neg hover]
    omega

variable [WordSource R]

theorem count_store_le (f : ExpiringFilter R) (key : Key) (position : Position) :
    (f.store key position).state.count ≤ f.count + 1 := by
  rw [store_eq]
  split
  · dsimp only
    split
    · exact Nat.le_succ _
    · exact Nat.le_succ _
  · dsimp only
    split
    · exact Nat.le_succ _
    · dsimp only
      split
      · exact Nat.le_refl _
      · exact Nat.le_succ _

/-- An addition leaves no more entries than there were, or as many as the filter may be loaded with;
the former if it was loaded before. -/
theorem count_add_le (h : f.table.Counted l f.count) (key : Key) (timestamp : Nat) :
    (f.add key timestamp).state.count ≤ max f.count l.loadLimit ∧
      (4 * l.slots ≤ 5 * f.count → (f.add key timestamp).state.count ≤ f.count) := by
  by_cases hold : f.interval timestamp * f.intervalSeconds < f.ring.windowStart f.intervalSeconds
  · rw [add_of_expired f key timestamp hold]
    exact ⟨Nat.le_max_left .., fun _ => Nat.le_refl _⟩
  · rw [(add_of_kept f key timestamp hold).2]
    generalize f.interval timestamp = n
    have haged := count_age h (n * f.intervalSeconds) (position n)
    generalize (f.age (n * f.intervalSeconds) (position n)).state = g at haged
    have hstored := count_store_le g key (position n)
    rw [Layout.loadLimit]
    omega

theorem count_handle_le (h : f.table.Counted l f.count) (hle : f.count ≤ l.loadLimit)
    (request : Request Key UInt64) : (f.handle request).1.count ≤ l.loadLimit := by
  cases request with
  | add key timestamp => exact ((count_add_le h key _).1).trans (Nat.max_le.2 ⟨hle, Nat.le_refl _⟩)
  | query key => exact hle
  | delete key => exact (count_delete_le f key).trans hle
  | clear => exact Nat.zero_le _

/-- By induction on the requests: the number of entries stays exact and within the limit. -/
theorem count_run_le (h : f.table.Counted l f.count) (hle : f.count ≤ l.loadLimit)
    (requests : List (Request Key UInt64)) :
    ((requests.map .request).foldl execute f).count ≤ l.loadLimit := by
  induction requests generalizing f with
  | nil => exact hle
  | cons request requests ih =>
    exact ih (counted_execute h (.request request)) (count_handle_le h hle request)

/-- However a filter came by its entries, an addition leaves it with no more than it had or than it may
be loaded with, and with no more than it had if it was loaded. As long as nothing is restored, a
filter that is new or was cleared never has more than it may be loaded with. -/
theorem load_bounded {config : ExpiringConfig} (hv : config.validate = .ok ()) (words : R) :
    ∃ f₀, create config words = .ok f₀ ∧
      (∀ (commands : List (Command UInt64)) (key : Key) (timestamp : UInt64),
        let f := commands.foldl execute f₀
        let count := (f.add key timestamp.toNat).state.count
        count ≤ max f.count config.layout.loadLimit ∧
          (4 * config.layout.slots ≤ 5 * f.count → count ≤ f.count)) ∧
      ∀ (commands : List (Command UInt64)) (requests : List (Request Key UInt64)),
        ((requests.map .request).foldl execute f₀).count ≤ config.layout.loadLimit ∧
          ((requests.map .request).foldl execute (commands.foldl execute f₀).clear.state).count ≤
            config.layout.loadLimit := by
  obtain ⟨f₀, hf₀⟩ := exists_create hv words
  have hcounted := counted_create hf₀
  refine ⟨f₀, hf₀, fun commands key timestamp => ?_, fun commands requests => ⟨?_, ?_⟩⟩
  · exact count_add_le (counted_run hcounted commands) key timestamp.toNat
  · exact count_run_le hcounted (count_create hf₀ ▸ Nat.zero_le _) requests
  · have hcleared := counted_execute (counted_run hcounted commands) (.request .clear)
    exact count_run_le hcleared (Nat.zero_le _) requests

/-- Eight slots, which may be loaded with seven entries, and an image that fills all of them. -/
theorem load_bounded_small :
    let config : ExpiringConfig := { capacity := 8, hash := fun _ _ => 0 }
    let image : Command UInt64 := .restore 8 (List.replicate 40 1) none
    ∃ f₀, create config (fun _ => 0 : Nat → UInt64) = .ok f₀ ∧
      (f₀.execute image).count = 8 ∧
      (∀ (key : Key) (timestamp : UInt64),
        ((f₀.execute image).add key timestamp.toNat).state.count ≤ 8) ∧
      ∀ requests : List (Request Key UInt64),
        ((requests.map .request).foldl execute f₀).count ≤ 7 := by
  intro config image
  have hv : config.validate = .ok () := rfl
  obtain ⟨f₀, hf₀, hadd, hrun⟩ := load_bounded hv (fun _ => 0 : Nat → UInt64)
  cases hf₀
  have hlimit : config.layout.loadLimit = 7 := by decide
  refine ⟨_, rfl, by decide +kernel, fun key timestamp => ?_, fun requests => ?_⟩
  · exact ((hadd [image] key timestamp).2 (by decide +kernel)).trans_eq (by decide +kernel)
  · exact (hrun [] requests).1.trans_eq hlimit

end ExpiringFilter

end CuckooFilter
