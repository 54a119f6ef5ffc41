import CuckooFilter.Proofs.Table.Conservation
import Mathlib.Data.Set.Subsingleton
import Mathlib.Logic.Relation

/-!
# No class is stored twice

A table that was built from an empty one, placing only keys that were not found (`Table.Move`), holds
at most one entry of each class (`Table.StoredOnce`). Every move keeps that, a walk that gives up and
one that displaces the new entry itself included, because a placement keeps the entries as a multiset
whatever places they pass through. So a walk never meets a second copy of what it carries
(`Table.stored_once`); only an image from elsewhere can bring one.
-/

namespace CuckooFilter.Table

variable {w v : Nat} {R : Type}

/-! ## Slots set anywhere -/

theorem setSlot_of_size_le {t : Table w v R} {i : Nat} (h : t.size ≤ i) (j : Fin bucketSize)
    (s : Slot w v) : t.setSlot i j s = t := by
  obtain ⟨buckets, hash, words⟩ := t
  have hbuckets (b : Bucket w v) : buckets.setIfInBounds i b = buckets :=
    Array.setIfInBounds_eq_of_size_le h
  simp only [setSlot, setBucket, hbuckets]

theorem entries_erase_le (t : Table w v R) (i : Nat) (j : Fin bucketSize) :
    (t.setSlot i j .empty).entries ≤ t.entries := by
  by_cases hi : i < t.size
  · have hempty : t.layout.entryAt i (.empty : Slot w v) = 0 := Layout.entryAt_of_empty rfl
    have he := entries_setSlot t hi j .empty
    rw [hempty, add_zero] at he
    rw [← he]
    exact Multiset.le_add_right _ _
  · rw [setSlot_of_size_le (Nat.not_lt.1 hi)]

/-- The classes do not depend on tags. -/
theorem classes_setTag (t : Table w v R) (i : Nat) (j : Fin bucketSize) (tag : Tag v) :
    (t.setTag i j tag).entries.map Prod.fst = t.entries.map Prod.fst := by
  by_cases hi : i < t.size
  · have hclass (s : Slot w v) : (t.layout.entryAt i ⟨s.fingerprint, tag⟩).map Prod.fst =
        (t.layout.entryAt i s).map Prod.fst := by
      by_cases ho : s.occupied
      · have ho' : Slot.occupied (⟨s.fingerprint, tag⟩ : Slot w v) := ho
        rw [Layout.entryAt_of_occupied ho, Layout.entryAt_of_occupied ho']
        rfl
      · have ho' : ¬ Slot.occupied (⟨s.fingerprint, tag⟩ : Slot w v) := ho
        rw [Layout.entryAt, Layout.entryAt, if_neg ho, if_neg ho']
    have he := congrArg (Multiset.map Prod.fst)
      (entries_setSlot t hi j ⟨(t.slot i j).fingerprint, tag⟩)
    rw [Multiset.map_add, Multiset.map_add, hclass (t.slot i j)] at he
    exact add_right_cancel he
  · rw [setTag, setSlot_of_size_le (Nat.not_lt.1 hi)]

/-! ## One entry for each class -/

/-- The table has a power of two of buckets, and no two of its entries are of one class. -/
structure StoredOnce (t : Table w v R) : Prop where
  size : IsTableSize t.size
  nodup : (t.entries.map Prod.fst).Nodup

namespace StoredOnce

variable {t : Table w v R}

theorem ofSize {buckets : Nat} (h : IsTableSize buckets) (hash : HashFunction) (words : R) :
    (Table.ofSize buckets hash words : Table w v R).StoredOnce where
  size := by
    rw [← layout_buckets, layout_ofSize]
    exact h
  nodup := by
    rw [entries_ofSize]
    exact Multiset.nodup_zero

/-- No class more in a table of the same layout. -/
theorem of_le {t' : Table w v R} (h : t.StoredOnce) (hlayout : t'.layout = t.layout)
    (hle : t'.entries.map Prod.fst ≤ t.entries.map Prod.fst) : t'.StoredOnce where
  size := by
    rw [← layout_buckets, hlayout]
    exact h.size
  nodup := Multiset.nodup_of_le hle h.nodup

theorem setTag (h : t.StoredOnce) (i : Nat) (j : Fin bucketSize) (tag : Tag v) :
    (t.setTag i j tag).StoredOnce :=
  h.of_le (layout_setTag t i j tag) (classes_setTag t i j tag).le

theorem remove (h : t.StoredOnce) (c : Candidates w) : (t.remove c).1.StoredOnce := by
  rw [remove_eq]
  split
  · exact h.of_le (layout_setSlot ..) (Multiset.map_le_map (entries_erase_le ..))
  · exact h

theorem prune (h : t.StoredOnce) (p : Tag v → Bool) : (t.prune p).1.StoredOnce := by
  refine h.of_le (layout_prune t p) (Multiset.map_le_map ?_)
  rw [entries_prune]
  exact Multiset.filter_le _ _

theorem clear (h : t.StoredOnce) : t.clear.StoredOnce := by
  refine h.of_le (layout_clear t) (Multiset.map_le_map ?_)
  rw [entries_clear]
  exact Multiset.zero_le _

/-- In the two buckets of a fingerprint at most one slot holds it. -/
theorem subsingleton (h : t.StoredOnce) {i : Nat} (hi : i < t.size) {f : Fingerprint w}
    (hf : f ≠ 0) :
    {x : Nat × Fin bucketSize | (x.1 = i ∨ x.1 = t.alternate i f) ∧
      (t.slot x.1 x.2).fingerprint = f}.Subsingleton := by
  have hcopies : t.copies i f ≤ 1 := by
    rw [← count_classAt h.size hi]
    exact Multiset.nodup_iff_count_le_one.1 h.nodup _
  rintro x ⟨hx, hxf⟩ y ⟨hy, hyf⟩
  refine Finset.card_le_one.1 hcopies x ?_ y ?_
  · have ho : (t.slot x.1 x.2).occupied := Slot.occupied_iff.2 (hxf ▸ hf)
    simp [hx, ho, hxf]
  · have ho : (t.slot y.1 y.2).occupied := Slot.occupied_iff.2 (hyf ▸ hf)
    simp [hy, ho, hyf]

section Place

variable (h : t.StoredOnce) (hw : 0 < w) {key : Bytes} (hnew : t.find (t.locate key) = none)

include h hw hnew

theorem notMem_of_find : (t.locate key).entryClass ∉ t.entries.map Prod.fst := by
  intro hmem
  obtain ⟨e, he, hclass⟩ := Multiset.mem_map.1 hmem
  exact (find_eq_none_iff h.size (fits_locate h.size hw key)).1 hnew e he hclass

variable [WordSource R] (tag : Tag v) (merge : Tag v → Tag v → Tag v)

theorem place : (t.place (t.locate key) tag merge).state.StoredOnce where
  size := isTableSize_place h.size _ tag merge
  nodup := by
    have hnotMem := h.notMem_of_find hw hnew
    obtain ⟨p, -, hentries⟩ | ⟨-, hentries⟩ :=
      place_cases h.size (fits_locate h.size hw key) h.nodup hnotMem tag merge
    · rw [hentries, Multiset.map_cons, Multiset.nodup_cons]
      exact ⟨hnotMem, h.nodup⟩
    · rw [hentries]
      exact h.nodup

/-- What is placed fills a slot of its own. -/
theorem addsEntry_of_place {p : Placement v} (hp : (t.place (t.locate key) tag merge).answer = .ok p) :
    p.addsEntry := by
  have hstores := place_stores h.size (fits_locate h.size hw key) hp
  refine (hstores.not_merged_of_nodup ?_).2
  rw [Multiset.map_cons, Multiset.nodup_cons]
  exact ⟨h.notMem_of_find hw hnew, h.nodup⟩

end Place

end StoredOnce

/-! ## Runs -/

variable [WordSource R]

/-- One operation on a table. Only a key that is not found is placed; the walk may succeed or give up. -/
inductive Move : Table w v R → Table w v R → Prop
  | place (t : Table w v R) (key : Bytes) (tag : Tag v) (merge : Tag v → Tag v → Tag v)
      (hnew : t.find (t.locate key) = none) : Move t (t.place (t.locate key) tag merge).state
  | remove (t : Table w v R) (c : Candidates w) : Move t (t.remove c).1
  | setTag (t : Table w v R) (i : Nat) (j : Fin bucketSize) (tag : Tag v) : Move t (t.setTag i j tag)
  | prune (t : Table w v R) (p : Tag v → Bool) : Move t (t.prune p).1
  | clear (t : Table w v R) : Move t t.clear

theorem Move.storedOnce (hw : 0 < w) {t t' : Table w v R} (hmove : Move t t') (h : t.StoredOnce) :
    t'.StoredOnce := by
  cases hmove with
  | place key tag merge hnew => exact h.place hw hnew tag merge
  | remove c => exact h.remove c
  | setTag i j tag => exact h.setTag i j tag
  | prune p => exact h.prune p
  | clear => exact h.clear

theorem storedOnce_run (hw : 0 < w) {t t' : Table w v R} (hrun : Relation.ReflTransGen Move t t')
    (h : t.StoredOnce) : t'.StoredOnce := by
  induction hrun with
  | refl => exact h
  | tail _ hmove ih => exact hmove.storedOnce hw ih

/-- After any moves from an empty table, at most one slot holds a fingerprint in the two buckets that
it may be in, and no placement of a key that is not found ends in a merger. -/
theorem stored_once (hw : 0 < w) {buckets : Nat} (hb : IsTableSize buckets) (hash : HashFunction)
    (words : R) {t : Table w v R} (hrun : Relation.ReflTransGen Move (ofSize buckets hash words) t) :
    (∀ i < t.size, ∀ f : Fingerprint w, f ≠ 0 →
      {x : Nat × Fin bucketSize | (x.1 = i ∨ x.1 = t.alternate i f) ∧
        (t.slot x.1 x.2).fingerprint = f}.Subsingleton) ∧
    ∀ key tag merge, t.find (t.locate key) = none →
      ∀ kicks existing incoming,
        (t.place (t.locate key) tag merge).answer ≠ .ok (.merged kicks existing incoming) := by
  have h := storedOnce_run hw hrun (.ofSize hb hash words)
  refine ⟨fun i hi f hf => h.subsingleton hi hf, ?_⟩
  intro key tag merge hnew kicks existing incoming hmerged
  exact Bool.false_ne_true (h.addsEntry_of_place hw hnew tag merge hmerged)

/-- Four keys fill the first of two buckets. Only fingerprint 1 has the other bucket, too: the fifth key
takes its slot, and it moves. -/
theorem stored_once_relocated :
    let hash : HashFunction := fun bs _ =>
      if bs = [1, 0, 0, 0] then 0x8000000000000000 else UInt64.ofNat (ofLittleEndian bs <<< 32)
    let t : Table 32 8 (Nat → UInt64) := ofSize 2 hash fun _ => 0
    let put (t : Table 32 8 (Nat → UInt64)) (key : UInt8) := t.place (t.locate [key]) 7 (· + ·)
    let full := (put (put (put (put t 1).state 2).state 3).state 4).state
    let moved := (put full 5).state
    (put full 5).answer = .ok (.relocated 1) ∧ Relation.ReflTransGen Move t moved ∧
      (∀ i < moved.size, ∀ f : Fingerprint 32, f ≠ 0 →
        {x : Nat × Fin bucketSize | (x.1 = i ∨ x.1 = moved.alternate i f) ∧
          (moved.slot x.1 x.2).fingerprint = f}.Subsingleton) ∧
      moved.find (moved.locate [6]) = none ∧
        ∀ kicks existing incoming, (put moved 6).answer ≠ .ok (.merged kicks existing incoming) := by
  intro hash t put full moved
  have hput (t : Table 32 8 (Nat → UInt64)) (key : UInt8) :
      put t key = t.place (t.locate [key]) 7 (· + ·) := rfl
  have hstep (t : Table 32 8 (Nat → UInt64)) (key : UInt8) (hnew : t.find (t.locate [key]) = none) :
      Move t (put t key).state := .place t [key] 7 (· + ·) hnew
  have hrun : Relation.ReflTransGen Move t moved :=
    .tail (.tail (.tail (.tail (.tail .refl (hstep t 1 (by decide +kernel)))
      (hstep (put t 1).state 2 (by decide +kernel)))
      (hstep (put (put t 1).state 2).state 3 (by decide +kernel)))
      (hstep (put (put (put t 1).state 2).state 3).state 4 (by decide +kernel)))
      (hstep full 5 (by decide +kernel))
  have hnew : moved.find (moved.locate [6]) = none := by decide +kernel
  obtain ⟨hunique, hplace⟩ := stored_once (by decide) ⟨1, by decide, rfl⟩ hash (fun _ => 0) hrun
  refine ⟨by decide +kernel, hrun, hunique, hnew, ?_⟩
  -- Unfolded by name, or the two would be compared by running them.
  rw [hput]
  exact hplace [6] 7 (· + ·) hnew

end CuckooFilter.Table
