import CuckooFilter.ExpiringFilter
import CuckooFilter.Proofs.Request
import CuckooFilter.Proofs.Ring
import Mathlib.Data.Finset.Max
import Mathlib.Logic.Function.Basic

/-!
# Memories

What an expiring filter is proven to behave as: it remembers for each class the interval that was last
seen in, as a number that never wraps. A sighting in a later interval makes that the current one, and
what was seen more than 255 intervals before is forgotten (`Memory.advance`); a memory of which four
fifths are taken forgets one interval more (`Memory.sweep`).

* `oldest_eq_some`, `oldest_eq_none`: the least interval remembered;
* `Memory.WellFormed`: all that is remembered was seen in an interval still kept;
* `WellFormed.advance`, `WellFormed.sweep`, `WellFormed.store`, ...: and stays so.
-/

namespace CuckooFilter

/-- What a caller sees of an expiring filter after a request. -/
structure ExpiringReport where
  answer : Answer AddOutcome (Option Position)
  count : Nat
  currentInterval : Nat × Position
  lru : Option Position
  deriving DecidableEq

/-- Classes and when they were last seen, in intervals since time zero. -/
structure Memory (α : Type) where
  /-- The classes remembered. -/
  classes : Finset α := ∅
  /-- The interval that each of them was last seen in. -/
  seen : α → Nat := fun _ => 0
  /-- The current interval. -/
  newest : Nat := 255
  /-- The interval that the next sweep is to forget, if one is known. -/
  cursor : Option Nat := none

namespace Memory

variable {α : Type} (m : Memory α)

/-- The least interval that a class was last seen in. -/
def oldest : Option Nat :=
  if h : (m.classes.image m.seen).Nonempty then some ((m.classes.image m.seen).min' h) else none

/-- The memory without the classes that were last seen in one of the intervals `p`. -/
def forget (p : Nat → Prop) [DecidablePred p] : Memory α :=
  { m with classes := m.classes.filter fun c => ¬ p (m.seen c) }

/-- Makes `n` the current interval. -/
def advance (n : Nat) : Memory α :=
  let m := m.forget (· < n - 255)
  { m with newest := n, cursor := m.oldest }

/-- The interval that a sweep forgets: the one at the cursor if a class was last seen in it, else the
least. -/
def swept : Option Nat :=
  match m.cursor with
  | some n => if ∃ c ∈ m.classes, m.seen c = n then some n else m.oldest
  | none => m.oldest

def sweep : Memory α :=
  let m := m.forget fun n => m.swept = some n
  { m with cursor := m.oldest }

/-- What a sighting in interval `n` does to a memory of `slots` before its class is looked up. -/
def age (slots n : Nat) : Memory α :=
  let m := if m.newest < n then m.advance n else m
  if 4 * slots ≤ 5 * m.classes.card then m.sweep else m

variable [DecidableEq α]

/-- When a class was last seen, if it is remembered. -/
def lookup (c : α) : Option Nat :=
  if c ∈ m.classes then some (m.seen c) else none

/-- Remembers a class seen in interval `n`; one that is new only if there is `room`. -/
def store (c : α) (n : Nat) (room : Bool) : Memory α × Except Full AddOutcome :=
  if c ∈ m.classes then
    ({ m with seen := Function.update m.seen c (max (m.seen c) n) },
      .ok (.duplicate ((n : Int) - m.seen c).natAbs))
  else if room then
    ({ m with classes := insert c m.classes, seen := Function.update m.seen c n }, .ok .added)
  else (m, .error ⟨maxKicks⟩)

def add (slots : Nat) (c : α) (n : Nat) (room : Bool) : Memory α × Except Full AddOutcome :=
  if n < m.newest - 255 then (m, .ok .expired) else (m.age slots n).store c n room

/-- A request to a memory of `slots`, given whether there is room for another class. -/
def handle (slots : Nat) (m : Memory α) :
    Request α Nat × Bool → Memory α × Answer AddOutcome (Option Position)
  | (.add c n, room) =>
    let added := m.add slots c n room
    (added.1, .added added.2)
  | (.query c, _) => (m, .found ((m.lookup c).map position))
  | (.delete c, _) => ({ m with classes := m.classes.erase c }, .deleted (c ∈ m.classes))
  | (.clear, _) => ({}, .cleared)

/-- A request to a memory of `slots` whose intervals are `seconds` long. -/
def respond (slots seconds : Nat) (m : Memory α) (input : Request α Nat × Bool) :
    Memory α × ExpiringReport :=
  let (m, answer) := m.handle slots input
  (m, ⟨answer, m.classes.card, (m.newest * seconds * nanosPerSecond, position m.newest),
    m.cursor.map position⟩)

theorem lookup_eq_some {m : Memory α} {c : α} {n : Nat} :
    m.lookup c = some n ↔ c ∈ m.classes ∧ m.seen c = n := by
  rw [lookup, Option.ite_none_right_eq_some, Option.some_inj]

/-- Memories in which every class is found alike have the same classes. -/
theorem classes_eq_of_lookup {m m' : Memory α} (h : m.lookup = m'.lookup) :
    m.classes = m'.classes := by
  ext c
  have hc := congrFun h c
  simp only [lookup] at hc
  by_cases hm : c ∈ m.classes <;> by_cases hm' : c ∈ m'.classes <;> simp_all

/-- Room makes no difference to an addition that is not refused for want of it. -/
theorem add_room {slots : Nat} {m : Memory α} {c : α} {n : Nat} {room : Bool}
    (h : (m.add slots c n room).2.isOk) : m.add slots c n room = m.add slots c n true := by
  cases room with
  | true => rfl
  | false =>
    simp only [add] at h ⊢
    by_cases hn : n < m.newest - 255
    · simp only [if_pos hn]
    · simp only [if_neg hn, store] at h ⊢
      by_cases hc : c ∈ (m.age slots n).classes
      · simp only [if_pos hc]
      · simp only [if_neg hc, Bool.false_eq_true, if_false] at h
        exact absurd h Bool.false_ne_true

/-- Only a refusal tells that there was no room. -/
theorem respond_room {slots seconds : Nat} {m : Memory α} {request : Request α Nat} {room : Bool}
    (h : ¬ (m.respond slots seconds (request, room)).2.answer.isFull) :
    m.respond slots seconds (request, room) = m.respond slots seconds (request, true) := by
  cases request with
  | add c n =>
    have hok : (m.add slots c n room).2.isOk := by
      simp only [respond, handle] at h
      cases hadd : (m.add slots c n room).2 with
      | ok outcome => rfl
      | error full => exact absurd rfl (hadd ▸ h)
    simp only [respond, handle, add_room hok]
  | query c => rfl
  | delete c => rfl
  | clear => rfl

/-! ## The least interval -/

omit [DecidableEq α]

variable {m} {n : Nat}

theorem oldest_eq_none : m.oldest = none ↔ m.classes = ∅ := by
  rw [← Finset.not_nonempty_iff_eq_empty, ← Finset.image_nonempty (f := m.seen), oldest]
  split <;> simp [*]

theorem oldest_eq_some :
    m.oldest = some n ↔ (∃ c ∈ m.classes, m.seen c = n) ∧ ∀ c ∈ m.classes, n ≤ m.seen c := by
  rw [oldest, Option.dite_none_right_eq_some]
  constructor
  · rintro ⟨hne, h⟩
    obtain rfl := Option.some.inj h
    exact ⟨Finset.mem_image.1 (Finset.min'_mem _ hne), fun c hc =>
      Finset.min'_le _ _ (Finset.mem_image_of_mem _ hc)⟩
  · rintro ⟨hmem, hle⟩
    have hmem := Finset.mem_image.2 hmem
    refine ⟨⟨n, hmem⟩, congrArg some (Nat.le_antisymm (Finset.min'_le _ _ hmem) ?_)⟩
    refine Finset.le_min' _ _ _ fun k hk => ?_
    obtain ⟨c, hc, rfl⟩ := Finset.mem_image.1 hk
    exact hle c hc

theorem exists_seen_of_swept (h : m.swept = some n) : ∃ c ∈ m.classes, m.seen c = n := by
  unfold swept at h
  split at h
  · split at h
    · obtain rfl := Option.some.inj h
      assumption
    · exact (oldest_eq_some.1 h).1
  · exact (oldest_eq_some.1 h).1

theorem swept_eq_none (h : m.swept = none) : m.classes = ∅ := by
  unfold swept at h
  split at h
  · split at h
    · exact absurd h (Option.some_ne_none _)
    · exact oldest_eq_none.1 h
  · exact oldest_eq_none.1 h

theorem newest_age (m : Memory α) (slots n : Nat) : (m.age slots n).newest = max m.newest n := by
  have hadvance : (if m.newest < n then m.advance n else m).newest = max m.newest n := by
    split
    · rename_i hn
      exact (Nat.max_eq_right hn.le).symm
    · rename_i hn
      exact (Nat.max_eq_left (Nat.not_lt.1 hn)).symm
  rw [age, ← hadvance]
  split_ifs <;> rfl

/-- A sighting that is not too old is in an interval still kept once the memory has aged. -/
theorem kept_age (m : Memory α) (slots : Nat) {n : Nat} (hn : ¬ n < m.newest - 255) :
    Kept (m.age slots n).newest n := by
  rw [newest_age]
  exact ⟨by omega, Nat.le_max_right ..⟩

/-! ## What is remembered was seen in an interval still kept -/

/-- The classes and the cursor are of intervals that are still kept. -/
structure WellFormed (m : Memory α) : Prop where
  newest_ge : 255 ≤ m.newest
  kept : ∀ c ∈ m.classes, Kept m.newest (m.seen c)
  cursor_kept : ∀ n ∈ m.cursor, Kept m.newest n

theorem wellFormed_empty : WellFormed ({} : Memory α) where
  newest_ge := Nat.le_refl _
  kept _ h := absurd h (Finset.notMem_empty _)
  cursor_kept _ h := nomatch h

namespace WellFormed

/-- A cursor at the least interval is at one still kept. -/
theorem of_oldest (hge : 255 ≤ m.newest) (hkept : ∀ c ∈ m.classes, Kept m.newest (m.seen c)) :
    WellFormed { m with cursor := m.oldest } := by
  refine ⟨hge, hkept, fun n hn => ?_⟩
  obtain ⟨⟨c, hc, rfl⟩, -⟩ := oldest_eq_some.1 hn
  exact hkept c hc

theorem advance (h : m.WellFormed) (hn : m.newest < n) : (m.advance n).WellFormed := by
  refine of_oldest (m := { m.forget (· < n - 255) with newest := n })
    (Nat.le_trans h.newest_ge hn.le) fun c hc => ?_
  obtain ⟨hc, hlate⟩ := Finset.mem_filter.1 hc
  exact (h.kept c hc).mono hn.le (show n ≤ m.seen c + 255 by omega)

theorem sweep (h : m.WellFormed) : m.sweep.WellFormed :=
  of_oldest h.newest_ge fun c hc => h.kept c (Finset.mem_filter.1 hc).1

theorem erase [DecidableEq α] (h : m.WellFormed) (c : α) :
    WellFormed { m with classes := m.classes.erase c } :=
  ⟨h.newest_ge, fun d hd => h.kept d (Finset.mem_of_mem_erase hd), h.cursor_kept⟩

/-- A class may be seen in any interval that is kept. -/
theorem update [DecidableEq α] (h : m.WellFormed) (c : α) (hn : Kept m.newest n) :
    WellFormed { m with classes := insert c m.classes, seen := Function.update m.seen c n } := by
  refine ⟨h.newest_ge, fun d hd => ?_, h.cursor_kept⟩
  by_cases hdc : d = c
  · subst hdc
    simpa using hn
  · simpa [hdc] using h.kept d (Finset.mem_of_mem_insert_of_ne hd hdc)

end WellFormed

end Memory

end CuckooFilter
