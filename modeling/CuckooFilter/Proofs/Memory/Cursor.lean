import CuckooFilter.Proofs.Memory

/-!
# Where the cursor stands

The cursor of a memory is set to the least interval remembered as a later interval begins and after a
sweep. A class that is then seen in an earlier interval comes to stand before the cursor, which a
sweep does not notice. If no sighting is earlier than those before it, none of the intervals
remembered is before the cursor (`Ordered.add`).
-/

namespace CuckooFilter.Memory

variable {α : Type}

/-- No class remembered was last seen before the interval at the cursor. -/
def CursorFirst (m : Memory α) : Prop :=
  ∀ n ∈ m.cursor, ∀ c ∈ m.classes, n ≤ m.seen c

theorem cursorFirst_oldest (m : Memory α) : CursorFirst { m with cursor := m.oldest } :=
  fun _ hn => (oldest_eq_some.1 hn).2

/-- The cursor is first, and neither it nor a class remembered is past interval `latest`. -/
structure Ordered (m : Memory α) (latest : Nat) : Prop where
  cursorFirst : m.CursorFirst
  cursor_le : ∀ n ∈ m.cursor, n ≤ latest
  seen_le : ∀ c ∈ m.classes, m.seen c ≤ latest

theorem ordered_empty (latest : Nat) : Ordered ({} : Memory α) latest where
  cursorFirst _ h := nomatch h
  cursor_le _ h := nomatch h
  seen_le _ h := absurd h (Finset.notMem_empty _)

/-- A cursor at the least interval is not past any bound of those remembered. -/
theorem ordered_oldest {m : Memory α} {latest : Nat} (h : ∀ c ∈ m.classes, m.seen c ≤ latest) :
    Ordered { m with cursor := m.oldest } latest where
  cursorFirst := m.cursorFirst_oldest
  cursor_le n hn := by
    obtain ⟨⟨c, hc, rfl⟩, -⟩ := oldest_eq_some.1 hn
    exact h c hc
  seen_le := h

namespace Ordered

variable {m : Memory α} {latest n : Nat}

theorem mono (h : m.Ordered latest) (hle : latest ≤ n) : m.Ordered n :=
  ⟨h.cursorFirst, fun k hk => (h.cursor_le k hk).trans hle, fun c hc => (h.seen_le c hc).trans hle⟩

theorem advance (h : m.Ordered latest) (n : Nat) : (m.advance n).Ordered latest :=
  ordered_oldest (m := { m.forget (· < n - 255) with newest := n })
    fun c hc => h.seen_le c (Finset.mem_filter.1 hc).1

theorem sweep (h : m.Ordered latest) : m.sweep.Ordered latest :=
  ordered_oldest fun c hc => h.seen_le c (Finset.mem_filter.1 hc).1

theorem age (h : m.Ordered latest) (slots n : Nat) : (m.age slots n).Ordered latest := by
  have hcaught : (if m.newest < n then m.advance n else m).Ordered latest := by
    split
    · exact h.advance n
    · exact h
  rw [Memory.age]
  generalize (if m.newest < n then m.advance n else m) = m' at hcaught ⊢
  split
  · exact hcaught.sweep
  · exact hcaught

variable [DecidableEq α]

theorem erase (h : m.Ordered latest) (c : α) :
    Ordered { m with classes := m.classes.erase c } latest where
  cursorFirst n hn d hd := h.cursorFirst n hn d (Finset.mem_of_mem_erase hd)
  cursor_le := h.cursor_le
  seen_le d hd := h.seen_le d (Finset.mem_of_mem_erase hd)

/-- A class may be seen in the latest interval. -/
theorem update (h : m.Ordered latest) (c : α) :
    Ordered { m with classes := insert c m.classes, seen := Function.update m.seen c latest }
      latest where
  cursorFirst n hn d hd := by
    by_cases hdc : d = c
    · subst hdc
      simpa using h.cursor_le n hn
    · simpa [hdc] using h.cursorFirst n hn d (Finset.mem_of_mem_insert_of_ne hd hdc)
  cursor_le := h.cursor_le
  seen_le d hd := by
    by_cases hdc : d = c
    · simp [hdc]
    · simpa [hdc] using h.seen_le d (Finset.mem_of_mem_insert_of_ne hd hdc)

theorem store (h : m.Ordered latest) (c : α) (room : Bool) :
    (m.store c latest room).1.Ordered latest := by
  rw [Memory.store]
  split_ifs with hc
  · have hupdate := h.update c
    rw [Finset.insert_eq_of_mem hc] at hupdate
    rw [Nat.max_eq_right (h.seen_le c hc)]
    exact hupdate
  · exact h.update c
  · exact h

/-- A sighting that is not earlier than those before it leaves the cursor first. -/
theorem add (h : m.Ordered latest) (hle : latest ≤ n) (slots : Nat) (c : α) (room : Bool) :
    (m.add slots c n room).1.Ordered n := by
  rw [Memory.add]
  split_ifs
  · exact h.mono hle
  · exact ((h.mono hle).age slots n).store c room

end Ordered

end CuckooFilter.Memory
