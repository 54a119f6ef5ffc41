import CuckooFilter.Proofs.Table.Placement

/-!
# What a placement conserves

Whatever a table holds, an image that brought some entries several times included, placing a key keeps
every entry but one that it merges into another of the same class, and says after how many moves
(`Placement.Conserves`). So a class that had an entry has one afterwards, and no class but the key's
gets its first (`place_conserves`). The entries are counted where they are: those of a class are the
slots of its two buckets that hold its fingerprint (`Table.copies`).
-/

namespace CuckooFilter

variable {w v : Nat} {R : Type}

namespace Table

/-! ## Copies of an entry -/

/-- The number of slots that hold the fingerprint, in the buckets of an entry that is in bucket `i`. -/
def copies (t : Table w v R) (i : Nat) (f : Fingerprint w) : Nat :=
  ((({i, t.alternate i f} : Finset Nat) ×ˢ (Finset.univ : Finset (Fin bucketSize))).filter fun x =>
    (t.slot x.1 x.2).occupied ∧ (t.slot x.1 x.2).fingerprint = f).card

theorem countP_entryAt (l : Layout) (c : EntryClass w) (i : Nat) (s : Slot w v) :
    (l.entryAt i s).countP (fun e => c = e.1) =
      if s.occupied ∧ c = l.classAt i s.fingerprint then 1 else 0 := by
  by_cases ho : s.occupied
  · simp [Layout.entryAt_of_occupied ho, ho, Multiset.countP_eq_card_filter,
      Multiset.filter_singleton, apply_ite Multiset.card]
  · simp [Layout.entryAt, ho]

/-- The entries of a class are the copies in its buckets. -/
theorem count_classAt {t : Table w v R} (ht : IsTableSize t.size) {i : Nat} (hi : i < t.size)
    (f : Fingerprint w) :
    (t.entries.map Prod.fst).count (t.layout.classAt i f) = t.copies i f := by
  have hsum : (t.entries.map Prod.fst).count (t.layout.classAt i f) =
      ∑ x ∈ Finset.range t.size ×ˢ (Finset.univ : Finset (Fin bucketSize)),
        if (t.slot x.1 x.2).occupied ∧
          t.layout.classAt i f = t.layout.classAt x.1 (t.slot x.1 x.2).fingerprint then 1 else 0 := by
    rw [Multiset.count_map, ← Multiset.countP_eq_card_filter, entries_eq_sum,
      ← Multiset.coe_countPAddMonoidHom, map_sum]
    exact Finset.sum_congr rfl fun x _ => countP_entryAt ..
  rw [hsum, ← Finset.card_filter, copies]
  refine congrArg Finset.card (Finset.ext fun ⟨k, j⟩ => ?_)
  have hs := Layout.alternate_lt (l := t.layout) ht hi f
  simp only [Finset.mem_filter, Finset.mem_product, Finset.mem_range, Finset.mem_univ, and_true,
    Finset.mem_insert, Finset.mem_singleton, Layout.classAt_eq_iff, alternate_eq]
  constructor
  · rintro ⟨-, ho, rfl, hik⟩
    refine ⟨hik.imp Eq.symm fun h => ?_, ho, rfl⟩
    rw [h, Layout.alternate_alternate]
  · rintro ⟨hk, ho, hf⟩
    rw [hf]
    obtain rfl | rfl := hk
    · exact ⟨hi, ho, rfl, .inl rfl⟩
    · exact ⟨hs, ho, rfl, .inr (Layout.alternate_alternate i f).symm⟩

/-! ## Keys that are found -/

/-- A key is found if its class has an entry. -/
theorem isSome_find_locate_iff {t : Table w v R} (ht : IsTableSize t.size) (hw : 0 < w)
    (key : Bytes) :
    (t.find (t.locate key)).isSome ↔ t.layout.classOf w key ∈ t.entries.map Prod.fst := by
  rw [← entryClass_locate]
  obtain ⟨hmem, hfind⟩ | ⟨hmem, i, j, hfind, -⟩ := find_cases ht (fits_locate ht hw key)
  · rw [hfind]
    exact iff_of_false Bool.false_ne_true hmem
  · rw [hfind]
    exact iff_of_true rfl hmem

end Table

/-! ## Placements -/

namespace Placement

/-- The number of moves lies between `least` and `most`, if there were moves. -/
def KicksBetween (least most : Nat) : Placement v → Prop
  | .direct => True
  | .relocated kicks | .merged kicks _ _ => least ≤ kicks ∧ kicks ≤ most

theorem KicksBetween.mono {p : Placement v} {least least' most most' : Nat}
    (h : p.KicksBetween least most) (hleast : least' ≤ least) (hmost : most ≤ most') :
    p.KicksBetween least' most' := by
  cases p with
  | direct => trivial
  | relocated kicks => exact ⟨hleast.trans h.1, h.2.trans hmost⟩
  | merged kicks existing incoming => exact ⟨hleast.trans h.1, h.2.trans hmost⟩

/-- What became of the entries `before` and of the new one, when it was placed and `after` are in the
table. The classes after a merger are all those before, but for one copy of one that had several. -/
def Conserves (merge : Tag v → Tag v → Tag v) (new : Entry w v) (before after : Multiset (Entry w v)) :
    Placement v → Prop
  | .direct => after = new ::ₘ before
  | .relocated kicks => (1 ≤ kicks ∧ kicks ≤ maxKicks) ∧ after = new ::ₘ before
  | .merged kicks existing incoming =>
    (1 ≤ kicks ∧ kicks ≤ maxKicks) ∧
      ∃ c rest, new ::ₘ before = (c, existing) ::ₘ (c, incoming) ::ₘ rest ∧
        after = (c, merge existing incoming) ::ₘ rest ∧
        2 ≤ ((new ::ₘ before).map Prod.fst).count c ∧
        after.map Prod.fst = ((new ::ₘ before).map Prod.fst).erase c

variable {merge : Tag v → Tag v → Tag v} {new : Entry w v} {before after : Multiset (Entry w v)}
  {p : Placement v}

theorem Stores.conserves (h : p.Stores merge (new ::ₘ before) after)
    (hkicks : p.KicksBetween 1 maxKicks) : p.Conserves merge new before after := by
  cases p with
  | direct => exact h
  | relocated kicks => exact ⟨hkicks, h⟩
  | merged kicks existing incoming =>
    obtain ⟨c, rest, hall, rfl⟩ := h
    refine ⟨hkicks, c, rest, hall, rfl, ?_, ?_⟩
    · rw [hall, Multiset.map_cons, Multiset.map_cons, Multiset.count_cons_self,
        Multiset.count_cons_self]
      omega
    · rw [hall, Multiset.map_cons, Multiset.map_cons, Multiset.map_cons, Multiset.erase_cons_head]

/-- A class has an entry afterwards if it had one before or is that of the new entry. -/
theorem Stores.mem_classes_iff (h : p.Stores merge (new ::ₘ before) after) {c : EntryClass w} :
    c ∈ after.map Prod.fst ↔ c = new.1 ∨ c ∈ before.map Prod.fst := by
  rw [← Multiset.mem_cons, ← Multiset.map_cons]
  cases p with
  | direct => rw [show after = new ::ₘ before from h]
  | relocated kicks => rw [show after = new ::ₘ before from h]
  | merged kicks existing incoming =>
    obtain ⟨d, rest, hall, rfl⟩ := h
    rw [hall]
    simp only [Multiset.map_cons, Multiset.mem_cons, or_self_left]

end Placement

namespace Table

variable [WordSource R]

/-- By induction on the moves that are left. -/
theorem kicks_walk (merge : Tag v → Tag v → Tag v) (left : Nat) {t : Table w v R} {i : Nat}
    {s : Slot w v} {path : List (Nat × Fin bucketSize)} {p : Placement v}
    (h : (t.walk merge left i s path).answer = .ok p) :
    p.KicksBetween (path.length + 1) (path.length + left) := by
  induction left generalizing t i s path with
  | zero => cases h
  | succ left ih =>
    rw [walk_succ] at h
    dsimp only at h
    split at h
    · obtain rfl := Except.ok.inj h
      show path.length + 1 ≤ path.length + 1 ∧ path.length + 1 ≤ path.length + (left + 1)
      omega
    · split at h
      · obtain rfl := Except.ok.inj h
        show path.length + 1 ≤ path.length + 1 ∧ path.length + 1 ≤ path.length + (left + 1)
        omega
      · refine (ih h).mono ?_ ?_
        · show path.length + 1 ≤ path.length + 1 + 1
          omega
        · show path.length + 1 + left ≤ path.length + (left + 1)
          omega

theorem kicks_place {t : Table w v R} {c : Candidates w} {tag : Tag v}
    {merge : Tag v → Tag v → Tag v} {p : Placement v} (h : (t.place c tag merge).answer = .ok p) :
    p.KicksBetween 1 maxKicks := by
  rw [place_eq] at h
  split at h
  · obtain rfl := Except.ok.inj h
    trivial
  · split at h
    · obtain rfl := Except.ok.inj h
      trivial
    · have hkicks := kicks_walk merge maxKicks h
      rwa [List.length_nil, Nat.zero_add] at hkicks

theorem isTableSize_place {t : Table w v R} (ht : IsTableSize t.size) (c : Candidates w) (tag : Tag v)
    (merge : Tag v → Tag v → Tag v) : IsTableSize (t.place c tag merge).state.size := by
  rwa [← layout_buckets, layout_place, layout_buckets]

section Place

variable {t : Table w v R} (ht : IsTableSize t.size) (hw : 0 < w) (key : Bytes) (tag : Tag v)
  (merge : Tag v → Tag v → Tag v)

include ht hw

theorem isSome_find_place_iff (other : Bytes) :
    ((t.place (t.locate key) tag merge).state.find
        ((t.place (t.locate key) tag merge).state.locate other)).isSome ↔
      t.layout.classOf w other ∈ (t.place (t.locate key) tag merge).state.entries.map Prod.fst := by
  rw [isSome_find_locate_iff (isTableSize_place ht _ tag merge) hw, layout_place]

/-- A placement that succeeds keeps the entries and adds the new one, or merges two of a class into
one; one that gives up leaves the table as it was. The keys that are found afterwards are those that
were found before and, if it succeeds, those of the new entry's class. -/
theorem place_conserves :
    let new : Entry w v := (t.layout.classOf w key, tag)
    let placed := t.place (t.locate key) tag merge
    let t' := placed.state
    (∀ i < t.size, ∀ f,
      (t.entries.map Prod.fst).count (t.layout.classAt i f) = t.copies i f ∧
        (t'.entries.map Prod.fst).count (t.layout.classAt i f) = t'.copies i f) ∧
    (∀ p, placed.answer = .ok p →
      p.Conserves merge new t.entries t'.entries ∧
      t'.occupied = (if p.addsEntry then t.occupied + 1 else t.occupied) ∧
      ∀ other, (t'.find (t'.locate other)).isSome ↔
        t.layout.classOf w other = new.1 ∨ (t.find (t.locate other)).isSome) ∧
    ∀ full, placed.answer = .error full →
      t'.buckets = t.buckets ∧
      ∀ other, (t'.find (t'.locate other)).isSome ↔ (t.find (t.locate other)).isSome := by
  intro new placed t'
  have hc := fits_locate ht hw key
  have ht' : IsTableSize t'.size := isTableSize_place ht _ tag merge
  have hlayout : t'.layout = t.layout := layout_place ..
  refine ⟨fun i hi f => ⟨count_classAt ht hi f, ?_⟩, fun p hp => ?_, fun full hfull => ?_⟩
  · rw [← hlayout]
    exact count_classAt ht' (hi.trans_eq (congrArg Layout.buckets hlayout).symm) f
  · have hstores : p.Stores merge (new ::ₘ t.entries) t'.entries := place_stores ht hc hp
    refine ⟨hstores.conserves (kicks_place hp), ?_, fun other => ?_⟩
    · rw [← card_entries, ← card_entries]
      exact hstores.card_eq
    · rw [isSome_find_locate_iff ht hw, ← hstores.mem_classes_iff]
      exact isSome_find_place_iff ht hw key tag merge other
  · refine ⟨(buckets_place_of_full ht hc hfull).1, fun other => ?_⟩
    rw [isSome_find_locate_iff ht hw, ← entries_place_of_full ht hc hfull]
    exact isSome_find_place_iff ht hw key tag merge other

end Place

/-- In a bucket that is full of copies of one fingerprint, the fifth copy displaces one of them, which
is merged into another. -/
theorem place_conserves_copies :
    let copy (tag : Tag 8) : Slot 8 8 := ⟨1, tag⟩
    let t : Table 8 8 (Nat → UInt64) :=
      ⟨#[⟨#v[copy 1, copy 2, copy 3, copy 4]⟩], fun _ _ => 0, fun _ => 0⟩
    let placed := t.place (t.locate []) 5 (· + ·)
    placed.answer = .ok (.merged 1 5 1) ∧ placed.state.occupied = 4 ∧
      (Placement.merged 1 5 1).Conserves (· + ·) (t.layout.classOf 8 [], 5) t.entries
        placed.state.entries := by
  intro copy t placed
  have hanswer : placed.answer = .ok (.merged 1 5 1) := by decide +kernel
  obtain ⟨-, hok, -⟩ := place_conserves (t := t) ⟨0, by decide, rfl⟩ (by decide) [] 5 (· + ·)
  obtain ⟨hconserves, hoccupied, -⟩ := hok _ hanswer
  exact ⟨hanswer, hoccupied.trans (by decide +kernel), hconserves⟩

end Table

end CuckooFilter
