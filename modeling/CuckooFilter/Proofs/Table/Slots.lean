import CuckooFilter.Table
import Mathlib.Algebra.BigOperators.Group.List.Basic
import Mathlib.Algebra.GroupWithZero.Nat

/-!
# The slots of a table

Every operation on a table puts a value into a slot (`Table.setSlot`) or finds one. What they need
of each other is

* `slot_setSlot`: a slot after another one was set;
* `Bucket.fingerprint_of_lookup`, `Bucket.lookup_eq_none_iff`: what a bucket finds;
* `setBucket_insert`: an insertion sets one slot;
* `slots_eq`: the list of slots, bucket by bucket and slot by slot;
* `occupied_eq`, `liveTags_eq`, `snd_prune`: what the operations on a whole table say of that list.
-/

namespace CuckooFilter

variable {w v : Nat} {R : Type}

namespace Bucket

theorem fingerprint_of_lookup {b : Bucket w v} {f : Fingerprint w} {j : Fin bucketSize}
    (h : b.lookup f = some j) : (b.slots.get j).fingerprint = f := by
  obtain ⟨⟨slots, hsize⟩⟩ := b
  simp only [lookup, Vector.findFinIdx?, Option.map_eq_some_iff] at h
  obtain ⟨i, hi, rfl⟩ := h
  exact beq_iff_eq.1 (Array.findFinIdx?_eq_some_iff.1 hi).1

theorem lookup_eq_none_iff {b : Bucket w v} {f : Fingerprint w} :
    b.lookup f = none ↔ ∀ j : Fin bucketSize, (b.slots.get j).fingerprint ≠ f := by
  simp only [lookup, Vector.findFinIdx?_eq_none_iff, beq_iff_eq]
  constructor
  · exact fun h j => h _ (Vector.getElem_mem j.isLt)
  · intro h s hs
    obtain ⟨i, hi, rfl⟩ := Vector.getElem_of_mem hs
    exact h ⟨i, hi⟩

theorem insert_eq_none_iff {b : Bucket w v} {s : Slot w v} :
    b.insert s = none ↔ ∀ j : Fin bucketSize, (b.slots.get j).occupied := by
  simp only [insert, Option.map_eq_none_iff, lookup_eq_none_iff, Slot.occupied_iff]

end Bucket

namespace Table

@[simp] theorem size_setSlot (t : Table w v R) (i : Nat) (j : Fin bucketSize) (s : Slot w v) :
    (t.setSlot i j s).size = t.size := by
  simp [setSlot, setBucket, size]

@[simp] theorem hash_setSlot (t : Table w v R) (i : Nat) (j : Fin bucketSize) (s : Slot w v) :
    (t.setSlot i j s).hash = t.hash := rfl

theorem bucket_setBucket (t : Table w v R) {i : Nat} (hi : i < t.size) (k : Nat) (b : Bucket w v) :
    (t.setBucket i b).bucket k = if k = i then b else t.bucket k := by
  simp only [setBucket, bucket, Array.getD_eq_getD_getElem?, Array.getElem?_setIfInBounds]
  by_cases h : k = i
  · subst h
    have hi : k < t.buckets.size := hi
    simp [hi]
  · simp [h, Ne.symm h]

theorem slot_setSlot (t : Table w v R) {i : Nat} (hi : i < t.size) (j : Fin bucketSize)
    (s : Slot w v) (k : Nat) (l : Fin bucketSize) :
    (t.setSlot i j s).slot k l = if (k, l) = (i, j) then s else t.slot k l := by
  simp only [slot, setSlot, bucket_setBucket t hi, Prod.mk.injEq]
  by_cases hk : k = i
  · subst hk
    simp only [if_true, true_and, Bucket.set]
    show ((t.bucket k).slots.set j s)[(l : Nat)] = _
    rw [Vector.getElem_set]
    simp only [Fin.val_inj, eq_comm]
    rfl
  · simp only [hk, if_false, false_and]

theorem setSlot_slot (t : Table w v R) (i : Nat) (j : Fin bucketSize) :
    t.setSlot i j (t.slot i j) = t := by
  obtain ⟨buckets, hash, words⟩ := t
  simp only [setSlot, setBucket, slot, Table.mk.injEq, and_true]
  apply Array.ext (by simp)
  intro k hk hk'
  rw [Array.getElem_setIfInBounds hk']
  split
  · subst k
    have hb : buckets.getD i .empty = buckets[i] := by simp [hk']
    rw [bucket, hb]
    exact congrArg Bucket.mk (Vector.set_getElem_self _)
  · rfl

theorem setSlot_setSlot (t : Table w v R) {i : Nat} (hi : i < t.size) (j : Fin bucketSize)
    (s s' : Slot w v) : (t.setSlot i j s).setSlot i j s' = t.setSlot i j s' := by
  have hb : (t.setSlot i j s).bucket i = (t.bucket i).set j s := by
    rw [setSlot, bucket_setBucket t hi, if_pos rfl]
  simp only [setSlot] at hb ⊢
  rw [hb]
  simp [setBucket, Bucket.set]

theorem slot_congr {t t' : Table w v R} (h : t.buckets = t'.buckets) (i : Nat) (j : Fin bucketSize) :
    t.slot i j = t'.slot i j := by
  rw [slot, slot, bucket, bucket, h]

theorem buckets_setSlot_congr {t t' : Table w v R} (h : t.buckets = t'.buckets) (i : Nat)
    (j : Fin bucketSize) (s : Slot w v) : (t.setSlot i j s).buckets = (t'.setSlot i j s).buckets := by
  simp only [setSlot, setBucket, bucket, h]

/-- Inserting into a bucket sets one of its empty slots. -/
theorem setBucket_insert {t : Table w v R} {i : Nat} {s : Slot w v} {b : Bucket w v}
    (h : (t.bucket i).insert s = some b) :
    ∃ j, (t.slot i j).fingerprint = 0 ∧ t.setBucket i b = t.setSlot i j s := by
  obtain ⟨j, hj, rfl⟩ := Option.map_eq_some_iff.1 h
  exact ⟨j, Bucket.fingerprint_of_lookup hj, rfl⟩

/-! ## All slots -/

/-- A sum over the buckets. -/
theorem foldl_buckets (n : Nat) (f : Bucket w v → Nat) (buckets : List (Bucket w v)) :
    buckets.foldl (fun n b => n + f b) n = n + (buckets.map f).sum := by
  induction buckets generalizing n with
  | nil => rfl
  | cons b buckets ih => rw [List.foldl_cons, ih, List.map_cons, List.sum_cons, Nat.add_assoc]

theorem occupied_eq (t : Table w v R) : t.occupied = t.slots.countP Slot.occupied := by
  rw [occupied, ← Array.foldl_toList, foldl_buckets, Nat.zero_add, slots, List.countP_flatMap]
  exact congrArg List.sum (List.map_congr_left fun b _ => b.occupied_eq)

theorem liveTags_eq (t : Table w v R) :
    t.liveTags = (t.slots.filter Slot.occupied).map Slot.tag := by
  rw [liveTags, ← Array.foldr_toList, slots]
  induction t.buckets.toList with
  | nil => rfl
  | cons b buckets ih =>
    rw [List.foldr_cons, ih, List.flatMap_cons, List.filter_append, List.map_append, Bucket.liveTags_eq]

theorem snd_prune (t : Table w v R) (p : Tag v → Bool) :
    (t.prune p).2 = t.slots.countP (Slot.expired p) := by
  simp only [prune]
  rw [← Array.foldl_toList, foldl_buckets, Nat.zero_add, slots, List.countP_flatMap]
  exact congrArg List.sum (List.map_congr_left fun b _ => b.expired_eq p)

theorem slots_eq (t : Table w v R) :
    t.slots = (List.range t.size).flatMap fun i => (List.finRange bucketSize).map (t.slot i) := by
  have hb : t.buckets.toList = (List.range t.size).map t.bucket := by
    apply List.ext_getElem
    · simp [size]
    · intro i h _
      simp only [Array.length_toList] at h
      simp [bucket, h]
  rw [slots, hb, List.flatMap_map]
  congr 1
  funext i
  apply List.ext_getElem
  · simp
  · simp only [Vector.getElem_toList, List.getElem_map, List.getElem_finRange, slot]
    exact fun _ _ _ => rfl

end Table

end CuckooFilter
