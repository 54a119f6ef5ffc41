import CuckooFilter.Key
import CuckooFilter.Proofs.Geometry
import CuckooFilter.Proofs.Table.Slots
import Mathlib.Algebra.BigOperators.Fin
import Mathlib.Algebra.BigOperators.Group.Finset.Basic
import Mathlib.Algebra.Order.Group.Multiset
import Mathlib.Data.Sym.Sym2
import Mathlib.Tactic.Abel

/-!
# The entries of a table

All that a table can tell of a key is its class: the fingerprint and the two buckets, in no order.
An entry has the same class in either of its buckets (`Layout.classAt_alternate`), so what a table
holds is seen as a multiset of classes with tags (`Table.entries`), whatever slots they are in.

* `entries_setSlot`: setting a slot exchanges one entry for another;
* `card_entries`, `snd_entries`: the number of entries, and their tags;
* `entries_prune`, `card_pruned`, `card_entries_prune`: what pruning leaves, and how many;
* `entries_clear`, `entries_ofSize`: an empty table.
-/

namespace CuckooFilter

variable {w v : Nat} {R : Type}

/-- A fingerprint and the two buckets it may be in. -/
structure EntryClass (w : Nat) where
  fingerprint : Fingerprint w
  buckets : Sym2 Nat
  deriving DecidableEq

/-- What a slot holds, but for which of its buckets it is in. -/
abbrev Entry (w v : Nat) := EntryClass w × Tag v

/-- What decides the class of a key: the hash function and the number of buckets. -/
structure Layout where
  hash : HashFunction
  buckets : Nat

/-- The number of slots of a table with this layout. -/
def Layout.slots (l : Layout) : Nat :=
  l.buckets * bucketSize

/-- The layout of the table of a filter with this configuration. -/
def Config.layout (c : Config) : Layout :=
  ⟨c.hash, bucketCount c.capacity⟩

namespace Layout

variable (l : Layout)

/-- The other bucket of a fingerprint in bucket `i`. -/
def alternate (i : Nat) (f : Fingerprint w) : Nat :=
  CuckooFilter.alternate l.buckets (f.digest l.hash) i

/-- The class of a fingerprint in bucket `i`. -/
def classAt (i : Nat) (f : Fingerprint w) : EntryClass w :=
  ⟨f, s(i, l.alternate i f)⟩

/-- The class of the key with the given bytes. -/
def classOf (w : Nat) (key : Bytes) : EntryClass w :=
  let hash := l.hash key hashSeed
  l.classAt (hash.toNat % l.buckets) (Fingerprint.ofHash w hash)

/-- The class of a key. -/
def classOfKey (w : Nat) (key : Key) : EntryClass w :=
  l.classOf w key.encoding

/-- The entry of a slot in bucket `i`, if it is occupied. -/
def entryAt (i : Nat) (s : Slot w v) : Multiset (Entry w v) :=
  if s.occupied then {(l.classAt i s.fingerprint, s.tag)} else 0

variable {l}

theorem alternate_lt (hl : IsTableSize l.buckets) {i : Nat} (hi : i < l.buckets)
    (f : Fingerprint w) : l.alternate i f < l.buckets :=
  CuckooFilter.alternate_lt hl _ hi

@[simp] theorem alternate_alternate (i : Nat) (f : Fingerprint w) :
    l.alternate (l.alternate i f) f = i :=
  CuckooFilter.alternate_alternate ..

@[simp] theorem classAt_alternate (i : Nat) (f : Fingerprint w) :
    l.classAt (l.alternate i f) f = l.classAt i f := by
  rw [classAt, alternate_alternate, Sym2.eq_swap]
  rfl

theorem classAt_eq_iff {i j : Nat} {f g : Fingerprint w} :
    l.classAt i f = l.classAt j g ↔ f = g ∧ (i = j ∨ i = l.alternate j g) := by
  constructor
  · intro h
    simp only [classAt, EntryClass.mk.injEq, Sym2.eq_iff] at h
    exact ⟨h.1, h.2.imp And.left And.left⟩
  · rintro ⟨rfl, rfl | rfl⟩
    · rfl
    · exact classAt_alternate j f

theorem entryAt_of_occupied {i : Nat} {s : Slot w v} (h : s.occupied) :
    l.entryAt i s = {(l.classAt i s.fingerprint, s.tag)} :=
  if_pos h

theorem entryAt_of_empty {i : Nat} {s : Slot w v} (h : s.fingerprint = 0) : l.entryAt i s = 0 :=
  if_neg fun ho => Slot.occupied_iff.1 ho h

theorem mem_entryAt {i : Nat} {s : Slot w v} {e : Entry w v} :
    e ∈ l.entryAt i s ↔ s.occupied ∧ e = (l.classAt i s.fingerprint, s.tag) := by
  unfold entryAt
  split <;> simp [*]

theorem entryAt_expired (p : Tag v → Bool) (i : Nat) (s : Slot w v) :
    l.entryAt i (if s.expired p then .empty else s) =
      (l.entryAt i s).filter fun e => ¬ p e.2 := by
  by_cases ho : s.occupied
  · by_cases hp : p s.tag
    · have he : s.expired p = true := by simp [Slot.expired, ho, hp]
      rw [if_pos he, entryAt_of_empty rfl, entryAt_of_occupied ho]
      simp [Multiset.filter_singleton, hp]
    · have he : ¬ s.expired p = true := by simp [Slot.expired, hp]
      rw [if_neg he, entryAt_of_occupied ho]
      simp [Multiset.filter_singleton, hp]
  · have he : ¬ s.expired p = true := by simp [Slot.expired, ho]
    rw [if_neg he, entryAt, if_neg ho, Multiset.filter_zero]

end Layout

namespace Table

def layout (t : Table w v R) : Layout :=
  ⟨t.hash, t.size⟩

theorem alternate_eq (t : Table w v R) (i : Nat) (f : Fingerprint w) :
    t.alternate i f = t.layout.alternate i f := rfl

@[simp] theorem layout_buckets (t : Table w v R) : t.layout.buckets = t.size := rfl

@[simp] theorem layout_setSlot (t : Table w v R) (i : Nat) (j : Fin bucketSize) (s : Slot w v) :
    (t.setSlot i j s).layout = t.layout := by
  simp [layout]

/-- The entries of a table, whatever slots they are in. -/
def entries (t : Table w v R) : Multiset (Entry w v) :=
  ∑ i ∈ Finset.range t.size, ∑ j : Fin bucketSize, t.layout.entryAt i (t.slot i j)

theorem entries_congr {R' : Type} {t : Table w v R} {t' : Table w v R'}
    (hb : t.buckets = t'.buckets) (hh : t.hash = t'.hash) : t.entries = t'.entries := by
  simp only [entries, size, layout, slot, bucket, hb, hh]

/-- The entries as one sum over the places of the table. -/
theorem entries_eq_sum (t : Table w v R) :
    t.entries = ∑ x ∈ Finset.range t.size ×ˢ (Finset.univ : Finset (Fin bucketSize)),
      t.layout.entryAt x.1 (t.slot x.1 x.2) := by
  rw [entries, Finset.sum_product]

theorem mem_entries {t : Table w v R} {e : Entry w v} :
    e ∈ t.entries ↔ ∃ i < t.size, ∃ j, (t.slot i j).occupied ∧
      e = (t.layout.classAt i (t.slot i j).fingerprint, (t.slot i j).tag) := by
  simp only [entries, Multiset.mem_sum, Finset.mem_range, Finset.mem_univ, true_and,
    Layout.mem_entryAt]

/-- Setting a slot takes out the entry it held and puts in the new one. -/
theorem entries_setSlot (t : Table w v R) {i : Nat} (hi : i < t.size) (j : Fin bucketSize)
    (s : Slot w v) :
    (t.setSlot i j s).entries + t.layout.entryAt i (t.slot i j) =
      t.entries + t.layout.entryAt i s := by
  have hmem : (i, j) ∈ Finset.range t.size ×ˢ (Finset.univ : Finset (Fin bucketSize)) := by
    simp [hi]
  simp only [entries_eq_sum, layout_setSlot, size_setSlot, slot_setSlot t hi]
  rw [← Finset.add_sum_erase _ _ hmem, ← Finset.add_sum_erase _ _ hmem, if_pos rfl]
  have hrest : ∀ x ∈ (Finset.range t.size ×ˢ Finset.univ).erase (i, j),
      t.layout.entryAt x.1 (if (x.1, x.2) = (i, j) then s else t.slot x.1 x.2) =
        t.layout.entryAt x.1 (t.slot x.1 x.2) := fun x hx => by
    rw [if_neg (Finset.ne_of_mem_erase hx)]
  rw [Finset.sum_congr rfl hrest]
  abel

/-! ## Lists of slots -/

/-- A sum over the list of slots is a sum over the places of the table. -/
theorem sum_slots {M : Type} [AddCommMonoid M] (t : Table w v R) (f : Slot w v → M) :
    (t.slots.map f).sum = ∑ i ∈ Finset.range t.size, ∑ j : Fin bucketSize, f (t.slot i j) := by
  have hrange (g : Nat → M) : ((List.range t.size).map g).sum = ∑ i ∈ Finset.range t.size, g i := by
    rw [← Multiset.sum_coe, ← Multiset.map_coe]
    rfl
  rw [slots_eq, List.map_flatMap, List.flatMap, List.sum_flatten, List.map_map, hrange]
  simp only [Function.comp_apply, List.map_map, Fin.sum_univ_def]
  rfl

theorem sum_filter_slots {α : Type} (f : Slot w v → α) (p : Slot w v → Bool)
    (slots : List (Slot w v)) :
    (slots.map fun s => if p s then ({f s} : Multiset α) else 0).sum = ↑((slots.filter p).map f) := by
  induction slots with
  | nil => rfl
  | cons s slots ih =>
    rw [List.map_cons, List.sum_cons, ih]
    by_cases h : p s <;> simp [h]

/-- The entries, but for their classes, are those of the list of slots. -/
theorem map_entries {α : Type} (t : Table w v R) (f : Fingerprint w × Tag v → α) :
    (t.entries.map fun e => f (e.1.fingerprint, e.2)) =
      ↑((t.slots.filter Slot.occupied).map fun s => f (s.fingerprint, s.tag)) := by
  rw [← sum_filter_slots, sum_slots, entries, ← Multiset.coe_mapAddMonoidHom, map_sum]
  refine Finset.sum_congr rfl fun i _ => ?_
  rw [map_sum]
  refine Finset.sum_congr rfl fun j _ => ?_
  rw [Multiset.coe_mapAddMonoidHom, Layout.entryAt]
  split <;> simp [Layout.classAt]

theorem snd_entries (t : Table w v R) : t.entries.map Prod.snd = ↑t.liveTags := by
  rw [liveTags_eq]
  exact map_entries t Prod.snd

theorem mem_liveTags {t : Table w v R} {tag : Tag v} :
    tag ∈ t.liveTags ↔ ∃ e ∈ t.entries, e.2 = tag := by
  rw [← Multiset.mem_coe, ← snd_entries, Multiset.mem_map]

theorem card_entries (t : Table w v R) : t.entries.card = t.occupied := by
  rw [occupied_eq, ← Multiset.card_map Prod.snd, snd_entries, liveTags_eq, Multiset.coe_card,
    List.length_map, List.countP_eq_length_filter]

/-- There are no more entries than slots. -/
theorem occupied_le (t : Table w v R) : t.occupied ≤ t.capacity := by
  rw [occupied_eq]
  refine List.countP_le_length.trans (Nat.le_of_eq ?_)
  simp [slots_eq, capacity, List.length_flatMap]

/-! ## Operations on the whole table -/

theorem size_prune (t : Table w v R) (p : Tag v → Bool) : (t.prune p).1.size = t.size := by
  simp [prune, size]

theorem slot_prune (t : Table w v R) (p : Tag v → Bool) {i : Nat} (hi : i < t.size)
    (j : Fin bucketSize) :
    (t.prune p).1.slot i j = if (t.slot i j).expired p then .empty else t.slot i j := by
  have hi : i < t.buckets.size := hi
  have hb : (t.prune p).1.bucket i = (t.bucket i).prune p := by simp [bucket, prune, hi]
  rw [slot, hb, Bucket.slots_prune]
  exact Vector.getElem_map _ j.isLt

@[simp] theorem layout_prune (t : Table w v R) (p : Tag v → Bool) :
    (t.prune p).1.layout = t.layout := by
  rw [layout, size_prune]
  rfl

theorem filter_sum {ι α : Type} (p : α → Prop) [DecidablePred p] (s : Finset ι)
    (f : ι → Multiset α) : (∑ i ∈ s, f i).filter p = ∑ i ∈ s, (f i).filter p :=
  map_sum (⟨⟨Multiset.filter p, Multiset.filter_zero p⟩, Multiset.filter_add p⟩ :
    Multiset α →+ Multiset α) f s

theorem entries_prune (t : Table w v R) (p : Tag v → Bool) :
    (t.prune p).1.entries = t.entries.filter fun e => ¬ p e.2 := by
  rw [entries, entries, filter_sum, size_prune, layout_prune]
  refine Finset.sum_congr rfl fun i hi => ?_
  rw [filter_sum]
  refine Finset.sum_congr rfl fun j _ => ?_
  rw [slot_prune t p (Finset.mem_range.1 hi), Layout.entryAt_expired]

/-- What is pruned is counted. -/
theorem card_pruned (t : Table w v R) (p : Tag v → Bool) :
    (t.entries.filter fun e => p e.2).card = (t.prune p).2 := by
  rw [← Multiset.countP_map Prod.snd t.entries fun tag => p tag = true, snd_entries,
    Multiset.coe_countP, liveTags_eq, List.countP_map, List.countP_filter, snd_prune]
  refine List.countP_congr fun s _ => ?_
  simp [Slot.expired, and_comm]

theorem card_entries_prune (t : Table w v R) (p : Tag v → Bool) :
    (t.prune p).1.entries.card = t.entries.card - (t.prune p).2 := by
  have hcard := congrArg Multiset.card (Multiset.filter_add_not (fun e => p e.2) t.entries)
  rw [Multiset.card_add, card_pruned] at hcard
  rw [entries_prune]
  omega

/-- Pruning one tag takes entries out if there are any with that tag. -/
theorem snd_prune_pos {t : Table w v R} {p : Tag v} (hp : p ∈ t.liveTags) :
    0 < (t.prune (· == p)).2 := by
  obtain ⟨e, he, rfl⟩ := mem_liveTags.1 hp
  rw [← card_pruned, Multiset.card_pos_iff_exists_mem]
  exact ⟨e, Multiset.mem_filter.2 ⟨he, beq_self_eq_true _⟩⟩

theorem entries_eq_zero {t : Table w v R} (h : ∀ i < t.size, t.bucket i = .empty) :
    t.entries = 0 := by
  refine Finset.sum_eq_zero fun i hi => Finset.sum_eq_zero fun j _ => Layout.entryAt_of_empty ?_
  rw [slot, h i (Finset.mem_range.1 hi)]
  exact congrArg Slot.fingerprint (Vector.getElem_replicate j.isLt)

theorem entries_ofSize (n : Nat) (hash : HashFunction) (words : R) :
    (ofSize n hash words : Table w v R).entries = 0 :=
  entries_eq_zero fun i hi => by
    have hi : i < n := by simpa [ofSize, size] using hi
    simp [bucket, ofSize, hi]

@[simp] theorem layout_ofSize (n : Nat) (hash : HashFunction) (words : R) :
    (ofSize n hash words : Table w v R).layout = ⟨hash, n⟩ := by
  simp [ofSize, layout, size]

@[simp] theorem layout_clear (t : Table w v R) : t.clear.layout = t.layout := by
  simp [layout, clear, size]

theorem entries_clear (t : Table w v R) : t.clear.entries = 0 :=
  entries_ofSize t.size t.hash t.words

end Table

end CuckooFilter
