import CuckooFilter.Proofs.Table.Entries

/-!
# Finding, removing and retagging entries

A key of a table's layout has a fingerprint that is not zero, a first bucket of the table, and the
alternate of that as its second (`Candidates.Fits`). For such candidates the operations of a table
say all that there is to know of their class:

* `find_cases`: whether the class has an entry, and where;
* `remove_eq`: a removal empties the place that is found;
* `Holds.cons_entries_erase`, `Holds.cons_entries_setTag`: what the entries become when a place is
  emptied or given another tag.
-/

namespace CuckooFilter

variable {w v : Nat} {R : Type}

/-- Candidates as a key has them in a table of the given layout. -/
structure Candidates.Fits (c : Candidates w) (l : Layout) : Prop where
  ne_zero : c.fingerprint ≠ 0
  primary_lt : c.primary < l.buckets
  secondary_eq : c.secondary = l.alternate c.primary c.fingerprint

/-- The class that candidates are of. -/
def Candidates.entryClass (c : Candidates w) : EntryClass w :=
  ⟨c.fingerprint, s(c.primary, c.secondary)⟩

namespace Candidates

variable {c : Candidates w} {l : Layout}

theorem Fits.entryClass_eq (h : c.Fits l) : c.entryClass = l.classAt c.primary c.fingerprint := by
  rw [entryClass, h.secondary_eq]
  rfl

theorem Fits.classAt_secondary (h : c.Fits l) :
    l.classAt c.secondary c.fingerprint = c.entryClass := by
  rw [h.entryClass_eq, h.secondary_eq, Layout.classAt_alternate]

theorem Fits.secondary_lt (h : c.Fits l) (hl : IsTableSize l.buckets) :
    c.secondary < l.buckets := by
  rw [h.secondary_eq]
  exact Layout.alternate_lt hl h.primary_lt _

end Candidates

namespace Table

theorem fits_locate {t : Table w v R} (ht : IsTableSize t.size) (hw : 0 < w) (key : Bytes) :
    (t.locate key).Fits t.layout where
  ne_zero := Fingerprint.ofHash_ne_zero hw _
  primary_lt := Nat.mod_lt _ ht.pos
  secondary_eq := rfl

theorem entryClass_locate (t : Table w v R) (key : Bytes) :
    (t.locate key).entryClass = t.layout.classOf w key := rfl

/-- The place `(i, j)` of the table holds an entry of class `c`. -/
structure Holds (t : Table w v R) (c : EntryClass w) (i : Nat) (j : Fin bucketSize) : Prop where
  lt : i < t.size
  occupied : (t.slot i j).occupied
  classAt_eq : t.layout.classAt i (t.slot i j).fingerprint = c

namespace Holds

variable {t : Table w v R} {c : EntryClass w} {i : Nat} {j : Fin bucketSize}

theorem entryAt_eq (h : t.Holds c i j) :
    t.layout.entryAt i (t.slot i j) = {(c, (t.slot i j).tag)} := by
  rw [Layout.entryAt_of_occupied h.occupied, h.classAt_eq]

theorem mem_entries (h : t.Holds c i j) : (c, (t.slot i j).tag) ∈ t.entries :=
  Table.mem_entries.2 ⟨i, h.lt, j, h.occupied, by rw [h.classAt_eq]⟩

/-- Emptying the place takes its entry out of the table. -/
theorem cons_entries_erase (h : t.Holds c i j) :
    (c, (t.slot i j).tag) ::ₘ (t.setSlot i j .empty).entries = t.entries := by
  have he := entries_setSlot t h.lt j .empty
  rwa [h.entryAt_eq, Layout.entryAt_of_empty rfl, add_zero, add_comm, Multiset.singleton_add] at he

/-- Another tag for the place is another tag for its entry. -/
theorem cons_entries_setTag (h : t.Holds c i j) (tag : Tag v) :
    (c, (t.slot i j).tag) ::ₘ (t.setTag i j tag).entries = (c, tag) ::ₘ t.entries := by
  have ho : Slot.occupied (⟨(t.slot i j).fingerprint, tag⟩ : Slot w v) := h.occupied
  have he := entries_setSlot t h.lt j ⟨(t.slot i j).fingerprint, tag⟩
  rw [h.entryAt_eq, Layout.entryAt_of_occupied ho, h.classAt_eq, add_comm, Multiset.singleton_add,
    add_comm, Multiset.singleton_add] at he
  exact he

end Holds

@[simp] theorem layout_setTag (t : Table w v R) (i : Nat) (j : Fin bucketSize) (tag : Tag v) :
    (t.setTag i j tag).layout = t.layout :=
  layout_setSlot ..

theorem exists_holds_of_mem {t : Table w v R} {e : Entry w v} (h : e ∈ t.entries) :
    ∃ i j, t.Holds e.1 i j ∧ (t.slot i j).tag = e.2 := by
  obtain ⟨i, hi, j, ho, rfl⟩ := mem_entries.1 h
  exact ⟨i, j, ⟨hi, ho, rfl⟩, rfl⟩

section Find

variable {t : Table w v R} {c : Candidates w}

/-- What is found in bucket `i` is of the class of a fingerprint that is not zero. -/
theorem holds_of_lookup {i : Nat} {j : Fin bucketSize} {f : Fingerprint w} (hi : i < t.size)
    (hf : f ≠ 0) (h : (t.bucket i).lookup f = some j) : t.Holds (t.layout.classAt i f) i j := by
  have he : (t.slot i j).fingerprint = f := Bucket.fingerprint_of_lookup h
  exact ⟨hi, Slot.occupied_iff.2 (he ▸ hf), by rw [he]⟩

theorem holds_of_find (ht : IsTableSize t.size) (hc : c.Fits t.layout) {i : Nat}
    {j : Fin bucketSize} (h : t.find c = some (i, j)) : t.Holds c.entryClass i j := by
  unfold find at h
  split at h
  · rename_i k hk
    obtain ⟨rfl, rfl⟩ := Prod.mk.inj (Option.some.inj h)
    rw [hc.entryClass_eq]
    exact holds_of_lookup hc.primary_lt hc.ne_zero hk
  · obtain ⟨k, hk, e⟩ := Option.map_eq_some_iff.1 h
    obtain ⟨rfl, rfl⟩ := Prod.mk.inj e
    rw [← hc.classAt_secondary]
    exact holds_of_lookup (hc.secondary_lt ht) hc.ne_zero hk

theorem find_eq_none_iff (ht : IsTableSize t.size) (hc : c.Fits t.layout) :
    t.find c = none ↔ ∀ e ∈ t.entries, e.1 ≠ c.entryClass := by
  constructor
  · intro h e he hce
    obtain ⟨i, j, hold, -⟩ := exists_holds_of_mem he
    have hcls := hold.classAt_eq
    rw [hce, hc.entryClass_eq, Layout.classAt_eq_iff, ← hc.secondary_eq] at hcls
    obtain ⟨hf, hi⟩ := hcls
    unfold find at h
    split at h
    · exact absurd h (Option.some_ne_none _)
    · rename_i hp
      have hs := Option.map_eq_none_iff.1 h
      rcases hi with rfl | rfl
      · exact Bucket.lookup_eq_none_iff.1 hp j hf
      · exact Bucket.lookup_eq_none_iff.1 hs j hf
  · intro h
    cases hfind : t.find c with
    | none => rfl
    | some place => exact absurd rfl (h _ (holds_of_find ht hc hfind).mem_entries)

/-- A class without an entry is not found, and one that has an entry is found where it has one. -/
theorem find_cases (ht : IsTableSize t.size) (hc : c.Fits t.layout) :
    (c.entryClass ∉ t.entries.map Prod.fst ∧ t.find c = none) ∨
      c.entryClass ∈ t.entries.map Prod.fst ∧
        ∃ i j, t.find c = some (i, j) ∧ t.Holds c.entryClass i j := by
  cases hfind : t.find c with
  | none =>
    refine .inl ⟨fun hmem => ?_, rfl⟩
    obtain ⟨e, he, hec⟩ := Multiset.mem_map.1 hmem
    exact (find_eq_none_iff ht hc).1 hfind e he hec
  | some place =>
    have hold := holds_of_find ht hc hfind
    exact .inr ⟨Multiset.mem_map_of_mem _ hold.mem_entries, place.1, place.2, rfl, hold⟩

theorem remove_eq (t : Table w v R) (c : Candidates w) :
    t.remove c = match t.find c with
      | some (i, j) => (t.setSlot i j .empty, true)
      | none => (t, false) := by
  unfold remove find Bucket.erase
  cases (t.bucket c.primary).lookup c.fingerprint with
  | some j => rfl
  | none => cases (t.bucket c.secondary).lookup c.fingerprint <;> rfl

end Find

end Table

end CuckooFilter
