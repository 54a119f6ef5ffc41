import CuckooFilter.Proofs.Memory
import Mathlib.Order.Bounds.Basic

/-!
# What a memory recalls

As long as it has no need to sweep and finds room for every class, a memory depends on what was seen and
not on the order that it was seen in. A sighting may be kept and forgotten later, come too late to be
kept, or find its class there already: in the end a class is remembered if its latest sighting
(`LastSeen`) is in an interval still kept, and then as seen in that interval.

* `Recalls.add`: one more sighting;
* `recalls_foldl`: all of a list of sightings;
* `Recalls.lookup_eq_some`: what is then remembered of a class.
-/

namespace CuckooFilter

variable {α : Type}

/-- `n` is the latest interval that `c` was seen in. -/
def LastSeen (sightings : List (α × Nat)) (c : α) (n : Nat) : Prop :=
  IsGreatest {k | (c, k) ∈ sightings} n

/-- The current interval after all sightings: the latest of theirs, if that comes after the first one
that a memory starts in. -/
def newestOf (sightings : List (α × Nat)) : Nat :=
  (sightings.map Prod.snd).foldl max 255

theorem lastSeen_congr {s s' : List (α × Nat)} (h : s.Perm s') (c : α) (n : Nat) :
    LastSeen s c n ↔ LastSeen s' c n := by
  simp only [LastSeen, h.mem_iff]

theorem newestOf_congr {s s' : List (α × Nat)} (h : s.Perm s') : newestOf s = newestOf s' :=
  (h.map Prod.snd).foldl_eq 255

namespace Memory

/-- What is remembered was seen, and what was seen in an interval still kept is remembered: if not
that sighting, then a later one of its class. -/
structure Recalls (m : Memory α) (sightings : List (α × Nat)) : Prop where
  seen_mem : ∀ c ∈ m.classes, (c, m.seen c) ∈ sightings
  seen_ge : ∀ c n, (c, n) ∈ sightings → m.newest ≤ n + 255 → c ∈ m.classes ∧ n ≤ m.seen c

theorem recalls_empty : Recalls ({} : Memory α) [] where
  seen_mem _ h := absurd h (Finset.notMem_empty _)
  seen_ge _ _ h := nomatch h

namespace Recalls

variable {m : Memory α} {s : List (α × Nat)} {slots n : Nat}

/-- Only what is not kept any longer is forgotten. -/
theorem advance (h : m.Recalls s) (hn : m.newest ≤ n) : (m.advance n).Recalls s where
  seen_mem c hc := h.seen_mem c (Finset.mem_filter.1 hc).1
  seen_ge c k hk hle := by
    have hle : n ≤ k + 255 := hle
    obtain ⟨hc, hseen⟩ := h.seen_ge c k hk (hn.trans hle)
    exact ⟨Finset.mem_filter.2 ⟨hc, show ¬ m.seen c < n - 255 by omega⟩, hseen⟩

/-- A memory that is not loaded does not sweep. -/
theorem age (h : m.Recalls s) (hfew : 5 * m.classes.card < 4 * slots) (n : Nat) :
    (m.age slots n).Recalls s := by
  rw [Memory.age]
  by_cases hn : m.newest < n
  · have hcard : (m.advance n).classes.card ≤ m.classes.card :=
      Finset.card_le_card (Finset.filter_subset _ _)
    rw [if_pos hn, if_neg (by omega)]
    exact h.advance hn.le
  · rw [if_neg hn, if_neg (by omega)]
    exact h

variable [DecidableEq α]

theorem card_le (h : m.Recalls s) : m.classes.card ≤ (s.map Prod.fst).toFinset.card := by
  refine Finset.card_le_card fun c hc => List.mem_toFinset.2 ?_
  exact List.mem_map_of_mem (h.seen_mem c hc)

/-- A class that is seen, and that there is room for, is remembered as seen then or later. -/
theorem store (h : m.Recalls s) (c : α) (n : Nat) :
    (m.store c n true).1.Recalls (s ++ [(c, n)]) := by
  rw [Memory.store]
  by_cases hc : c ∈ m.classes
  · rw [if_pos hc]
    refine ⟨fun d hd => ?_, fun d k hk hle => ?_⟩
    · by_cases hdc : d = c
      · subst hdc
        rcases Nat.le_total (m.seen d) n with hle | hle
        · simp [Nat.max_eq_right hle]
        · simp [Nat.max_eq_left hle, h.seen_mem d hd]
      · simp [hdc, h.seen_mem d hd]
    · by_cases hdc : d = c
      · subst hdc
        refine ⟨hc, ?_⟩
        rcases List.mem_append.1 hk with hk | hk
        · simpa using Or.inl (h.seen_ge d k hk hle).2
        · simp_all
      · have hk : (d, k) ∈ s := by simpa [hdc] using hk
        simpa [hdc] using h.seen_ge d k hk hle
  · rw [if_neg hc, if_pos rfl]
    refine ⟨fun d hd => ?_, fun d k hk hle => ?_⟩
    · by_cases hdc : d = c
      · simp [hdc]
      · simp [hdc, h.seen_mem d (Finset.mem_of_mem_insert_of_ne hd hdc)]
    · rcases List.mem_append.1 hk with hk | hk
      · obtain ⟨hd, hseen⟩ := h.seen_ge d k hk hle
        have hdc : d ≠ c := fun e => hc (e ▸ hd)
        simpa [hdc] using ⟨hd, hseen⟩
      · simp_all

theorem add (h : m.Recalls s) (hfew : 5 * m.classes.card < 4 * slots) (c : α) (n : Nat) :
    (m.add slots c n true).1.Recalls (s ++ [(c, n)]) := by
  rw [Memory.add]
  by_cases hn : n < m.newest - 255
  · rw [if_pos hn]
    refine ⟨fun d hd => List.mem_append_left _ (h.seen_mem d hd), fun d k hk hle => ?_⟩
    rcases List.mem_append.1 hk with hk | hk
    · exact h.seen_ge d k hk hle
    · -- The new sighting itself is too old.
      have hle : m.newest ≤ k + 255 := hle
      obtain ⟨-, rfl⟩ := Prod.mk.inj (List.mem_singleton.1 hk)
      omega
  · rw [if_neg hn]
    exact (h.age hfew n).store c n

/-- A class is remembered if its latest sighting is in an interval still kept, and as seen then. -/
theorem lookup_eq_some (h : m.Recalls s) (hw : m.WellFormed) {c : α} {n : Nat} :
    m.lookup c = some n ↔ LastSeen s c n ∧ m.newest ≤ n + 255 := by
  rw [Memory.lookup_eq_some]
  constructor
  · rintro ⟨hc, rfl⟩
    have hkept := (hw.kept c hc).1
    refine ⟨⟨h.seen_mem c hc, fun k hk => ?_⟩, hkept⟩
    rcases Nat.lt_or_ge (k + 255) m.newest with hold | hle
    · omega
    · exact (h.seen_ge c k hk hle).2
  · rintro ⟨hlast, hle⟩
    obtain ⟨hc, hseen⟩ := h.seen_ge c n hlast.1 hle
    exact ⟨hc, Nat.le_antisymm (hlast.2 (h.seen_mem c hc)) hseen⟩

/-- What is remembered does not depend on the order of the sightings. -/
theorem lookup_eq_of_perm {m' : Memory α} {s' : List (α × Nat)} (h : m.Recalls s)
    (hw : m.WellFormed) (h' : m'.Recalls s') (hw' : m'.WellFormed) (hperm : s.Perm s')
    (hnewest : m.newest = m'.newest) : m.lookup = m'.lookup := by
  funext c
  refine Option.ext fun n => ?_
  rw [h.lookup_eq_some hw, h'.lookup_eq_some hw', lastSeen_congr hperm, hnewest]

end Recalls

variable [DecidableEq α] {m : Memory α} {slots : Nat}

theorem newest_store (m : Memory α) (c : α) (n : Nat) (room : Bool) :
    (m.store c n room).1.newest = m.newest := by
  rw [store]
  split_ifs <;> rfl

theorem newest_add (m : Memory α) (slots : Nat) (c : α) (n : Nat) (room : Bool) :
    (m.add slots c n room).1.newest = max m.newest n := by
  rw [add]
  split_ifs with hn
  · exact (Nat.max_eq_left (show n ≤ m.newest by omega)).symm
  · rw [newest_store, newest_age]

/-- By induction on the sightings to come, of which those before have left a memory that is not
loaded. -/
theorem recalls_foldl {before : List (α × Nat)} (h : m.Recalls before) (sightings : List (α × Nat))
    (hfew : 5 * ((before ++ sightings).map Prod.fst).toFinset.card < 4 * slots) :
    (sightings.foldl (fun m x => (m.add slots x.1 x.2 true).1) m).Recalls (before ++ sightings) := by
  induction sightings generalizing m before with
  | nil => rwa [List.append_nil]
  | cons x sightings ih =>
    obtain ⟨c, n⟩ := x
    have hbefore : (before.map Prod.fst).toFinset ⊆
        ((before ++ (c, n) :: sightings).map Prod.fst).toFinset := by
      rw [List.map_append, List.toFinset_append]
      exact Finset.subset_union_left
    have hcard := h.card_le.trans (Finset.card_le_card hbefore)
    have hadd := h.add (show 5 * m.classes.card < 4 * slots by omega) c n
    rw [List.append_cons] at hfew ⊢
    rw [List.foldl_cons]
    exact ih hadd hfew

theorem newest_foldl (m : Memory α) (sightings : List (α × Nat)) :
    (sightings.foldl (fun m x => (m.add slots x.1 x.2 true).1) m).newest =
      (sightings.map Prod.snd).foldl max m.newest := by
  induction sightings generalizing m with
  | nil => rfl
  | cons x sightings ih => rw [List.foldl_cons, ih, newest_add, List.map_cons, List.foldl_cons]

end Memory

end CuckooFilter
