import CuckooFilter.Proofs.Table.Image
import CuckooFilter.Proofs.Table.Placement

/-!
# The number of entries of a table

A filter keeps the number of entries beside its table (`Table.Counted`) and brings it up to date with
each operation by what that answers. The table may hold anything: an image may have brought entries
of one class several times, which a walk may then merge.

* `Counted.erase`, `Counted.setTag`, `Counted.place_of_ok`, ...: one lemma for each operation;
* `agrees_occupied`, `Counted.agrees`: the number is that of the fingerprints other than zero, in the
  slots and in the image (`Table.Agrees`).
-/

namespace CuckooFilter.Table

variable {w v : Nat} {R : Type}

/-- Whether `count` is the number of fingerprints other than zero, in the slots of a table as in its
image. -/
structure Agrees (t : Table w v R) (count : Nat) : Prop where
  slots : count = t.slots.countP fun s => s.fingerprint != 0
  le_capacity : count ≤ t.capacity
  image : count = (shownFingerprints w v t.toBytes).countP (· != 0)

/-- The slots that are counted as occupied are those that show no zero. -/
theorem agrees_occupied (hw : 8 ∣ w) (hpos : 0 < w) (t : Table w v R) : t.Agrees t.occupied where
  slots := by
    rw [occupied_eq]
    exact List.countP_congr fun s _ => by simp [Slot.occupied_iff]
  le_capacity := occupied_le t
  image := by
    rw [occupied_eq, shownFingerprints_toBytes hw hpos, List.countP_map]
    rfl

/-- The table has layout `l` and `count` entries. -/
structure Counted (l : Layout) (t : Table w v R) (count : Nat) : Prop where
  layout_eq : t.layout = l
  size : IsTableSize l.buckets
  count_eq : count = t.entries.card

namespace Counted

variable {l : Layout} {t : Table w v R} {count : Nat}

theorem congr {R' : Type} {t' : Table w v R'} (h : t.Counted l count)
    (hb : t'.buckets = t.buckets) (hh : t'.hash = t.hash) : t'.Counted l count where
  layout_eq := by rw [layout, Table.size, hb, hh]; exact h.layout_eq
  size := h.size
  count_eq := by rw [entries_congr hb hh]; exact h.count_eq

theorem isTableSize (h : t.Counted l count) : IsTableSize t.size :=
  show IsTableSize t.layout.buckets from h.layout_eq ▸ h.size

theorem size_eq (h : t.Counted l count) : t.size = l.buckets := by
  rw [← h.layout_eq, layout_buckets]

theorem capacity_eq (h : t.Counted l count) : t.capacity = l.slots := by
  rw [← h.layout_eq]
  rfl

theorem count_eq_occupied (h : t.Counted l count) : count = t.occupied := by
  rw [h.count_eq, card_entries]

theorem count_le (h : t.Counted l count) : count ≤ t.capacity := by
  rw [h.count_eq_occupied]
  exact occupied_le t

theorem agrees (h : t.Counted l count) (hw : 8 ∣ w) (hpos : 0 < w) : t.Agrees count := by
  rw [h.count_eq_occupied]
  exact agrees_occupied hw hpos t

/-- Tags are live as long as entries are counted. -/
theorem liveTags_eq_nil_iff (h : t.Counted l count) : t.liveTags = [] ↔ count = 0 := by
  rw [h.count_eq, ← Multiset.card_map Prod.snd, snd_entries, Multiset.coe_card,
    List.length_eq_zero_iff]

theorem ofSize {buckets : Nat} (h : IsTableSize buckets) (hash : HashFunction) (words : R) :
    (Table.ofSize buckets hash words : Table w v R).Counted ⟨hash, buckets⟩ 0 :=
  ⟨layout_ofSize .., h, (congrArg Multiset.card (entries_ofSize ..)).symm⟩

theorem clear (h : t.Counted l count) : t.clear.Counted l 0 :=
  ⟨(layout_clear t).trans h.layout_eq, h.size, (congrArg Multiset.card (entries_clear t)).symm⟩

theorem prune (h : t.Counted l count) (p : Tag v → Bool) :
    (t.prune p).1.Counted l (count - (t.prune p).2) :=
  ⟨(layout_prune t p).trans h.layout_eq, h.size, by rw [h.count_eq, card_entries_prune]⟩

/-- No more is pruned than there is. -/
theorem pruned_le (h : t.Counted l count) (p : Tag v → Bool) : (t.prune p).2 ≤ count := by
  rw [h.count_eq, ← card_pruned]
  exact Multiset.card_le_card (Multiset.filter_le _ _)

theorem fits_locate (h : t.Counted l count) (hw : 0 < w) (key : Bytes) :
    (t.locate key).Fits t.layout :=
  Table.fits_locate h.isTableSize hw key

/-- A table that takes an image has all its entries counted again. -/
theorem restore (h : t.Counted l count) {bytes : Bytes} {version : Option Nat}
    (hr : (t.restore bytes version).answer = .restored) :
    (t.restore bytes version).state.Counted l (t.restore bytes version).state.occupied := by
  obtain ⟨-, hl⟩ | ⟨hn, -⟩ := restore_cases t bytes version
  · exact ⟨hl.trans h.layout_eq, h.size, (card_entries _).symm⟩
  · exact absurd hr hn

section Holds

variable {c : EntryClass w} {i : Nat} {j : Fin bucketSize}

theorem erase (h : t.Counted l count) (hold : t.Holds c i j) :
    (t.setSlot i j .empty).Counted l (count - 1) := by
  refine ⟨(layout_setSlot ..).trans h.layout_eq, h.size, ?_⟩
  rw [h.count_eq, ← hold.cons_entries_erase, Multiset.card_cons, Nat.add_sub_cancel]

theorem count_pos (h : t.Counted l count) (hold : t.Holds c i j) : 0 < count := by
  rw [h.count_eq]
  exact Multiset.card_pos_iff_exists_mem.2 ⟨_, hold.mem_entries⟩

theorem setTag (h : t.Counted l count) (hold : t.Holds c i j) (tag : Tag v) :
    (t.setTag i j tag).Counted l count := by
  refine ⟨(layout_setTag ..).trans h.layout_eq, h.size, ?_⟩
  have hcard := congrArg Multiset.card (hold.cons_entries_setTag tag)
  rw [Multiset.card_cons, Multiset.card_cons] at hcard
  exact h.count_eq.trans (Nat.succ.inj hcard).symm

end Holds

section Place

variable [WordSource R] {c : Candidates w} {tag : Tag v} {merge : Tag v → Tag v → Tag v}

theorem place_of_full (h : t.Counted l count) (hc : c.Fits t.layout) {full : Full}
    (hfull : (t.place c tag merge).answer = .error full) :
    (t.place c tag merge).state.Counted l count := by
  have hent := entries_place_of_full h.isTableSize hc hfull
  exact ⟨(layout_place t c tag merge).trans h.layout_eq, h.size, by rw [hent, h.count_eq]⟩

theorem place_of_ok (h : t.Counted l count) (hc : c.Fits t.layout) {p : Placement v}
    (hok : (t.place c tag merge).answer = .ok p) :
    (t.place c tag merge).state.Counted l (if p.addsEntry then count + 1 else count) := by
  refine ⟨(layout_place t c tag merge).trans h.layout_eq, h.size, ?_⟩
  rw [(place_stores h.isTableSize hc hok).card_eq, h.count_eq]

end Place

end Counted

end CuckooFilter.Table
