import CuckooFilter.Proofs.ExpiringFilter.Occupancy
import CuckooFilter.Proofs.PlainFilter.Occupancy

/-!
# What a filter counts

Both filters keep the number of their entries beside the table. After any sequence of commands, whatever
their outcomes, that is the number of slots in use and can be read off the image
(`count_agrees_with_table`).
-/

namespace CuckooFilter

/-- After any commands, a filter counts the slots in use. -/
theorem count_agrees_with_table {R : Type} [WordSource R] (words : R) {plain : Config}
    (hplain : plain.validate = .ok ()) {expiring : ExpiringConfig}
    (hexpiring : expiring.validate = .ok ()) :
    (∃ f, PlainFilter.create plain words = .ok f ∧ ∀ commands : List (Command Unit),
        (commands.foldl PlainFilter.execute f).table.Agrees
          (commands.foldl PlainFilter.execute f).count) ∧
      ∃ f, ExpiringFilter.create expiring words = .ok f ∧ ∀ commands : List (Command UInt64),
        (commands.foldl ExpiringFilter.execute f).table.Agrees
          (commands.foldl ExpiringFilter.execute f).count := by
  constructor
  · obtain ⟨f, hf⟩ := PlainFilter.exists_create hplain words
    refine ⟨f, hf, fun commands => ?_⟩
    have hcounted := PlainFilter.counted_run (PlainFilter.counted_create hf) commands
    exact hcounted.agrees (by decide) (by decide)
  · obtain ⟨f, hf⟩ := ExpiringFilter.exists_create hexpiring words
    refine ⟨f, hf, fun commands => ?_⟩
    have hcounted := ExpiringFilter.counted_run (ExpiringFilter.counted_create hf) commands
    exact hcounted.agrees (by decide) (by decide)

/-- Two filters of eight slots, whose keys all have the same class. -/
theorem count_agrees_with_table_small :
    (∃ f, PlainFilter.create { capacity := 8, hash := fun _ _ => 0 } (fun _ => 0 : Nat → UInt64) =
        .ok f ∧ ∀ commands : List (Command Unit), (commands.foldl PlainFilter.execute f).table.Agrees
          (commands.foldl PlainFilter.execute f).count) ∧
      ∃ f, ExpiringFilter.create { capacity := 8, hash := fun _ _ => 0 }
        (fun _ => 0 : Nat → UInt64) = .ok f ∧ ∀ commands : List (Command UInt64),
          (commands.foldl ExpiringFilter.execute f).table.Agrees
            (commands.foldl ExpiringFilter.execute f).count :=
  count_agrees_with_table _ rfl rfl

end CuckooFilter
