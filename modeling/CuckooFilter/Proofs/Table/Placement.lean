import CuckooFilter.Proofs.Table.Lookup
import CuckooFilter.Table.Relocation

/-!
# What a placement does to the entries

A relocation walk carries one entry at a time. What is in the table and what is carried are together
the same entries after each move (`cons_entries_exchange`), so a walk that ends has stored all of
them, but for one that it merged into another of its class (`stores_walk`), and one that gives up has
put every entry back (`unwind_exchange`, `walk_of_full`).

* `place_direct_iff`: an entry is stored without a walk just if one of its buckets has an empty slot, and
  so it is never refused then (`not_hasRoom_of_full`);
* `place_stores`: the entries after a placement that succeeds;
* `place_of_full`: a placement that fails, on any table and of anything, has only drawn words;
* `place_congr`: what a placement asks of `merge`;
* `buckets_place_of_full`, `entries_place_of_full`: the buckets and the entries after one that fails;
* `place_cases`: with no class stored twice, a class that is new gets an entry or nothing changes.
-/

namespace CuckooFilter

variable {w v : Nat} {R : Type}

/-- What a placement has stored of `all` the entries it was to keep: all of them, or all but one that
it merged with another of the same class. -/
def Placement.Stores (merge : Tag v → Tag v → Tag v) (all stored : Multiset (Entry w v)) :
    Placement v → Prop
  | .direct | .relocated _ => stored = all
  | .merged _ existing incoming =>
    ∃ c rest, all = (c, existing) ::ₘ (c, incoming) ::ₘ rest ∧
      stored = (c, merge existing incoming) ::ₘ rest

/-- With no class stored twice, no walk ends in a merger. -/
theorem Placement.Stores.not_merged_of_nodup {merge : Tag v → Tag v → Tag v}
    {all stored : Multiset (Entry w v)} {p : Placement v} (h : p.Stores merge all stored)
    (hall : (all.map Prod.fst).Nodup) : stored = all ∧ p.addsEntry := by
  cases p with
  | direct => exact ⟨h, rfl⟩
  | relocated kicks => exact ⟨h, rfl⟩
  | merged kicks existing incoming =>
    obtain ⟨c, rest, rfl, -⟩ := h
    simp at hall

/-- The number of entries grows by one exactly if the placement says so. -/
theorem Placement.Stores.card_eq {merge : Tag v → Tag v → Tag v} {e : Entry w v}
    {before after : Multiset (Entry w v)} {p : Placement v}
    (h : p.Stores merge (e ::ₘ before) after) :
    after.card = if p.addsEntry then before.card + 1 else before.card := by
  cases p with
  | direct => rw [show after = e ::ₘ before from h, Multiset.card_cons]; rfl
  | relocated kicks => rw [show after = e ::ₘ before from h, Multiset.card_cons]; rfl
  | merged kicks existing incoming =>
    obtain ⟨c, rest, hall, rfl⟩ := h
    have hcard := congrArg Multiset.card hall
    simp only [Multiset.card_cons] at hcard ⊢
    exact (Nat.succ.inj hcard).symm

namespace Table

/-! ## Room -/

/-- One of the buckets of an entry has an empty slot. -/
def HasRoom (t : Table w v R) (c : Candidates w) : Prop :=
  ∃ j, ¬ (t.slot c.primary j).occupied ∨ ¬ (t.slot c.secondary j).occupied

theorem not_hasRoom_iff {t : Table w v R} {c : Candidates w} {s : Slot w v} :
    ¬ t.HasRoom c ↔
      (t.bucket c.primary).insert s = none ∧ (t.bucket c.secondary).insert s = none := by
  rw [Bucket.insert_eq_none_iff, Bucket.insert_eq_none_iff, HasRoom, ← forall_and]
  simp only [not_exists, not_or, not_not]
  rfl

/-! ## One move -/

/-- Only a bucket of the table is full. -/
theorem lt_size_of_insert_eq_none {t : Table w v R} {i : Nat} {s : Slot w v}
    (h : (t.bucket i).insert s = none) : i < t.size := by
  by_contra hi
  have hb : t.bucket i = .empty := by
    rw [bucket, Array.getD_eq_getD_getElem?, Array.getElem?_eq_none (Nat.le_of_not_lt hi)]
    rfl
  rw [hb] at h
  refine Slot.occupied_iff.1 (Bucket.insert_eq_none_iff.1 h 0) ?_
  exact congrArg Slot.fingerprint (Vector.getElem_replicate (by decide))

/-- Putting an entry of class `e` into an occupied slot takes the one that is there out. -/
theorem cons_entries_exchange (t : Table w v R) {i : Nat} (hi : i < t.size) {j : Fin bucketSize}
    (hj : (t.slot i j).occupied) {s : Slot w v} (hs : s.occupied) :
    (t.layout.classAt i (t.slot i j).fingerprint, (t.slot i j).tag) ::ₘ (t.setSlot i j s).entries =
      (t.layout.classAt i s.fingerprint, s.tag) ::ₘ t.entries := by
  have he := entries_setSlot t hi j s
  rw [Layout.entryAt_of_occupied hj, Layout.entryAt_of_occupied hs] at he
  rw [← Multiset.singleton_add, ← Multiset.singleton_add, add_comm, he, add_comm]

theorem entries_insert {t : Table w v R} {i : Nat} (hi : i < t.size) {s : Slot w v}
    (hs : s.occupied) {b : Bucket w v} (h : (t.bucket i).insert s = some b) :
    (t.setBucket i b).entries = (t.layout.classAt i s.fingerprint, s.tag) ::ₘ t.entries := by
  obtain ⟨j, hj, e⟩ := setBucket_insert h
  have he := entries_setSlot t hi j s
  rw [Layout.entryAt_of_empty hj, Layout.entryAt_of_occupied hs, add_zero] at he
  rw [e, he, add_comm, Multiset.singleton_add]

/-- An entry may be merged into another one of its class, which gets the tag made of both. -/
theorem Holds.stores_setTag {t : Table w v R} {c : EntryClass w} {i : Nat} {j : Fin bucketSize}
    (h : t.Holds c i j) (merge : Tag v → Tag v → Tag v) (kicks : Nat) (incoming : Tag v) :
    (Placement.merged kicks (t.slot i j).tag incoming).Stores merge ((c, incoming) ::ₘ t.entries)
      (t.setTag i j (merge (t.slot i j).tag incoming)).entries := by
  obtain ⟨rest, hrest⟩ := Multiset.exists_cons_of_mem h.mem_entries
  refine ⟨c, rest, by rw [hrest, Multiset.cons_swap], ?_⟩
  have hset := h.cons_entries_setTag (merge (t.slot i j).tag incoming)
  rwa [hrest, Multiset.cons_swap, Multiset.cons_inj_right] at hset

/-! ## Undoing moves -/

@[simp] theorem layout_unwind (path : List (Nat × Fin bucketSize)) (t : Table w v R)
    (s : Slot w v) : (t.unwind s path).layout = t.layout := by
  induction path generalizing t s with
  | nil => rfl
  | cons place path ih => rw [unwind, exchange, ih, layout_setSlot]

/-- Undoing moves does not look at the words. -/
theorem buckets_unwind_congr (path : List (Nat × Fin bucketSize)) {t t' : Table w v R}
    (h : t.buckets = t'.buckets) (s : Slot w v) :
    (t.unwind s path).buckets = (t'.unwind s path).buckets := by
  induction path generalizing t t' s with
  | nil => exact h
  | cons place path ih =>
    rw [unwind, unwind, exchange, exchange, slot_congr h]
    exact ih (buckets_setSlot_congr h ..) _

/-- Undoing the latest move first. -/
theorem unwind_exchange (t : Table w v R) {i : Nat} (hi : i < t.size) (j : Fin bucketSize)
    (s : Slot w v) (path : List (Nat × Fin bucketSize)) :
    (t.setSlot i j s).unwind (t.slot i j) ((i, j) :: path) = t.unwind s path := by
  rw [unwind, exchange, setSlot_setSlot t hi, setSlot_slot, slot_setSlot t hi, if_pos rfl]

/-! ## Walks -/

/-- The table with other words to draw from. -/
def withWords (t : Table w v R) (words : R) : Table w v R :=
  { t with words }

/-- How keeping `all` the entries in a table may end: they are stored, or the buckets are `back` again
and `kicks` entries were moved in vain. -/
def Placed (merge : Tag v → Tag v → Tag v) (all : Multiset (Entry w v))
    (back : Array (Bucket w v)) (kicks : Nat) (r : Step (Table w v R) (Except Full (Placement v))) :
    Prop :=
  match r.answer with
  | .ok p => p.Stores merge all r.state.entries
  | .error full => r.state.buckets = back ∧ full.kicks = kicks

variable [WordSource R]

@[simp] theorem buckets_draw (t : Table w v R) : t.draw.2.buckets = t.buckets := rfl
@[simp] theorem layout_draw (t : Table w v R) : t.draw.2.layout = t.layout := rfl
@[simp] theorem slot_draw (t : Table w v R) (i : Nat) (j : Fin bucketSize) :
    t.draw.2.slot i j = t.slot i j := rfl

theorem entries_draw (t : Table w v R) : t.draw.2.entries = t.entries :=
  entries_congr rfl rfl

/-- One move of a walk: the entry of `s` into a slot of bucket `i`, and on with what was there. -/
theorem walk_succ (merge : Tag v → Tag v → Tag v) (left : Nat) (t : Table w v R) (i : Nat)
    (s : Slot w v) (path : List (Nat × Fin bucketSize)) :
    let j := slotChoice t.draw.1
    let out := t.slot i j
    let t' := t.draw.2.setSlot i j s
    let path' := (i, j) :: path
    let i' := t'.alternate i out.fingerprint
    t.walk merge (left + 1) i s path =
      match (t'.bucket i').lookup out.fingerprint with
      | some twin =>
        let existing := (t'.slot i' twin).tag
        { state := t'.setTag i' twin (merge existing out.tag)
          answer := .ok (.merged path'.length existing out.tag)
          events := [.merged path'.length i'] }
      | none =>
        match (t'.bucket i').insert out with
        | some b =>
          { state := t'.setBucket i' b
            answer := .ok (.relocated path'.length)
            events := [.relocated path'.length i'] }
        | none => t'.walk merge left i' out path' := rfl

@[simp] theorem layout_walk (merge : Tag v → Tag v → Tag v) (left : Nat) (t : Table w v R) (i : Nat)
    (s : Slot w v) (path : List (Nat × Fin bucketSize)) :
    (t.walk merge left i s path).state.layout = t.layout := by
  induction left generalizing t i s path with
  | zero => exact layout_unwind ..
  | succ left ih =>
    rw [walk_succ]
    split
    · simp
    · split
      · rename_i h
        obtain ⟨j, -, e⟩ := setBucket_insert h
        simp [e]
      · rw [ih, layout_setSlot, layout_draw]

/-- By induction on the moves that are left: a walk that gives up has moved entries between buckets of
the table alone, and moves them all back. -/
theorem walk_of_full (merge : Tag v → Tag v → Tag v) (left : Nat) {t : Table w v R} {i : Nat}
    (hi : i < t.size) {s : Slot w v} {path : List (Nat × Fin bucketSize)} {full : Full}
    (h : (t.walk merge left i s path).answer = .error full) :
    (t.walk merge left i s path).state.buckets = (t.unwind s path).buckets ∧
      full = ⟨path.length + left⟩ ∧
      (t.walk merge left i s path).events = [.full (path.length + left) t.size] := by
  induction left generalizing t i s path with
  | zero =>
    obtain rfl := Except.error.inj h
    exact ⟨rfl, rfl, rfl⟩
  | succ left ih =>
    rw [walk_succ] at h ⊢
    generalize slotChoice t.draw.1 = j at h ⊢
    have hback : (t.draw.2.setSlot i j s).unwind (t.slot i j) ((i, j) :: path) =
        t.draw.2.unwind s path := unwind_exchange t.draw.2 hi j s path
    have hsize : (t.draw.2.setSlot i j s).size = t.size := size_setSlot ..
    generalize t.slot i j = out at h hback ⊢
    generalize t.draw.2.setSlot i j s = t' at h hback hsize ⊢
    generalize t'.alternate i out.fingerprint = i' at h ⊢
    dsimp only at h ⊢
    cases hlookup : (t'.bucket i').lookup out.fingerprint with
    | some twin =>
      rw [hlookup] at h
      cases h
    | none =>
      rw [hlookup] at h
      cases hinsert : (t'.bucket i').insert out with
      | some b =>
        rw [hinsert] at h
        cases h
      | none =>
        rw [hinsert] at h
        obtain ⟨hbuckets, hfull, hevents⟩ := ih (lt_size_of_insert_eq_none hinsert) h
        have hmoves : ((i, j) :: path).length + left = path.length + (left + 1) := by
          rw [List.length_cons]
          omega
        rw [hback] at hbuckets
        rw [hmoves] at hfull hevents
        rw [hsize] at hevents
        exact ⟨hbuckets.trans (buckets_unwind_congr path (buckets_draw t) s), hfull, hevents⟩

/-- A walk looks at `merge` for the tags of the entries that it merges, and for no others. -/
theorem walk_congr {merge merge' : Tag v → Tag v → Tag v} (left : Nat) {t : Table w v R} {i : Nat}
    {s : Slot w v} {path : List (Nat × Fin bucketSize)}
    (h : ∀ kicks existing incoming,
      (t.walk merge left i s path).answer = .ok (.merged kicks existing incoming) →
        merge existing incoming = merge' existing incoming) :
    t.walk merge left i s path = t.walk merge' left i s path := by
  induction left generalizing t i s path with
  | zero => rfl
  | succ left ih =>
    rw [walk_succ] at h
    rw [walk_succ, walk_succ]
    generalize t.slot i (slotChoice t.draw.1) = out at h ⊢
    generalize t.draw.2.setSlot i _ s = t' at h ⊢
    generalize t'.alternate i out.fingerprint = i' at h ⊢
    dsimp only at h ⊢
    cases hlookup : (t'.bucket i').lookup out.fingerprint with
    | some twin =>
      rw [hlookup] at h
      dsimp only at h ⊢
      rw [h _ _ _ rfl]
    | none =>
      rw [hlookup] at h
      cases hinsert : (t'.bucket i').insert out with
      | some b => rfl
      | none =>
        rw [hinsert] at h
        exact ih h

/-- By induction on the moves that are left: what the table holds and what is carried are together the
same entries after each of them. -/
theorem stores_walk (merge : Tag v → Tag v → Tag v) (left : Nat) {t : Table w v R}
    (ht : IsTableSize t.size) {i : Nat} (hi : i < t.size) (hfull : ∀ j, (t.slot i j).occupied)
    {s : Slot w v} (hs : s.occupied) {path : List (Nat × Fin bucketSize)} {p : Placement v}
    (h : (t.walk merge left i s path).answer = .ok p) :
    p.Stores merge ((t.layout.classAt i s.fingerprint, s.tag) ::ₘ t.entries)
      (t.walk merge left i s path).state.entries := by
  induction left generalizing t i s path with
  | zero => cases h
  | succ left ih =>
    rw [walk_succ] at h ⊢
    generalize slotChoice t.draw.1 = j at h ⊢
    have ho := hfull j
    have hcons := cons_entries_exchange t.draw.2 (j := j) hi (hfull j) hs
    rw [slot_draw, layout_draw, entries_draw] at hcons
    have hl : (t.draw.2.setSlot i j s).layout = t.layout := by rw [layout_setSlot, layout_draw]
    generalize t.slot i j = out at h ho hcons ⊢
    generalize t.draw.2.setSlot i j s = t' at h hcons hl ⊢
    have hsize : t'.size = t.size := congrArg Layout.buckets hl
    have hi' : t'.alternate i out.fingerprint < t'.size := by
      rw [alternate_eq, hl, hsize]
      exact Layout.alternate_lt ht hi _
    have hclass : t'.layout.classAt (t'.alternate i out.fingerprint) out.fingerprint =
        t.layout.classAt i out.fingerprint := by
      rw [alternate_eq, Layout.classAt_alternate, hl]
    generalize t'.alternate i out.fingerprint = i' at h hi' hclass ⊢
    rw [← hcons, ← hclass]
    dsimp only at h ⊢
    cases hlookup : (t'.bucket i').lookup out.fingerprint with
    | some twin =>
      rw [hlookup] at h
      obtain rfl := Except.ok.inj h
      exact (holds_of_lookup hi' (Slot.occupied_iff.1 ho) hlookup).stores_setTag merge _ out.tag
    | none =>
      rw [hlookup] at h
      cases hinsert : (t'.bucket i').insert out with
      | some b =>
        rw [hinsert] at h
        obtain rfl := Except.ok.inj h
        exact entries_insert hi' ho hinsert
      | none =>
        rw [hinsert] at h
        exact ih (hsize ▸ ht) hi' (Bucket.insert_eq_none_iff.1 hinsert) ho h

theorem placed_walk (merge : Tag v → Tag v → Tag v) (left : Nat) {t : Table w v R}
    (ht : IsTableSize t.size) {i : Nat} (hi : i < t.size) (hfull : ∀ j, (t.slot i j).occupied)
    {s : Slot w v} (hs : s.occupied) (path : List (Nat × Fin bucketSize)) :
    Placed merge ((t.layout.classAt i s.fingerprint, s.tag) ::ₘ t.entries) (t.unwind s path).buckets
      (path.length + left) (t.walk merge left i s path) := by
  unfold Placed
  cases hanswer : (t.walk merge left i s path).answer with
  | ok p => exact stores_walk merge left ht hi hfull hs hanswer
  | error full =>
    obtain ⟨hbuckets, rfl, -⟩ := walk_of_full merge left hi hanswer
    exact ⟨hbuckets, rfl⟩

theorem place_eq (t : Table w v R) (c : Candidates w) (tag : Tag v) (merge : Tag v → Tag v → Tag v) :
    t.place c tag merge =
      match (t.bucket c.primary).insert ⟨c.fingerprint, tag⟩ with
      | some b => { state := t.setBucket c.primary b, answer := .ok .direct }
      | none =>
        match (t.bucket c.secondary).insert ⟨c.fingerprint, tag⟩ with
        | some b => { state := t.setBucket c.secondary b, answer := .ok .direct }
        | none =>
          t.draw.2.walk merge maxKicks (if coin t.draw.1 then c.primary else c.secondary)
            ⟨c.fingerprint, tag⟩ [] := rfl

@[simp] theorem layout_place (t : Table w v R) (c : Candidates w) (tag : Tag v)
    (merge : Tag v → Tag v → Tag v) : (t.place c tag merge).state.layout = t.layout := by
  rw [place_eq]
  split
  · rename_i h
    obtain ⟨j, -, e⟩ := setBucket_insert h
    rw [e, layout_setSlot]
  · split
    · rename_i h
      obtain ⟨j, -, e⟩ := setBucket_insert h
      rw [e, layout_setSlot]
    · rw [layout_walk, layout_draw]

/-- A walk has moved entries, or it has given up. -/
theorem answer_walk_ne_direct (merge : Tag v → Tag v → Tag v) (left : Nat) (t : Table w v R) (i : Nat)
    (s : Slot w v) (path : List (Nat × Fin bucketSize)) :
    (t.walk merge left i s path).answer ≠ .ok .direct := by
  induction left generalizing t i s path with
  | zero => exact nofun
  | succ left ih =>
    rw [walk_succ]
    split
    · exact nofun
    · split
      · exact nofun
      · exact ih _ _ _ _

/-- Where there is room, an entry is stored without a walk. -/
theorem place_direct_iff {t : Table w v R} {c : Candidates w} {tag : Tag v}
    {merge : Tag v → Tag v → Tag v} :
    (t.place c tag merge).answer = .ok .direct ↔ t.HasRoom c := by
  rw [place_eq, ← not_iff_not, not_hasRoom_iff]
  cases hprimary : (t.bucket c.primary).insert ⟨c.fingerprint, tag⟩ with
  | some b => simp
  | none =>
    cases hsecondary : (t.bucket c.secondary).insert ⟨c.fingerprint, tag⟩ with
    | some b => simp
    | none => exact iff_of_true (answer_walk_ne_direct _ _ _ _ _ _) ⟨rfl, rfl⟩

/-- Only an entry that there is no room for is refused. -/
theorem not_hasRoom_of_full {t : Table w v R} {c : Candidates w} {tag : Tag v}
    {merge : Tag v → Tag v → Tag v} {full : Full} (h : (t.place c tag merge).answer = .error full) :
    ¬ t.HasRoom c := by
  intro hroom
  rw [place_direct_iff.2 hroom] at h
  cases h

/-- A placement that fails leaves the table as it was, but for the words that it has drawn. -/
theorem place_of_full {t : Table w v R} {c : Candidates w} {tag : Tag v}
    {merge : Tag v → Tag v → Tag v} {full : Full} (h : (t.place c tag merge).answer = .error full) :
    (t.place c tag merge).state = t.withWords (t.place c tag merge).state.words ∧
      full = ⟨maxKicks⟩ ∧ (t.place c tag merge).events = [.full maxKicks t.size] := by
  have hhash : (t.place c tag merge).state.hash = t.hash :=
    congrArg Layout.hash (layout_place t c tag merge)
  suffices hwalk : (t.place c tag merge).state.buckets = t.buckets ∧ full = ⟨maxKicks⟩ ∧
      (t.place c tag merge).events = [.full maxKicks t.size] by
    obtain ⟨hbuckets, hfull, hevents⟩ := hwalk
    exact ⟨by rw [withWords, ← hbuckets, ← hhash], hfull, hevents⟩
  clear hhash
  rw [place_eq] at h ⊢
  cases hprimary : (t.bucket c.primary).insert ⟨c.fingerprint, tag⟩ with
  | some b =>
    rw [hprimary] at h
    cases h
  | none =>
    rw [hprimary] at h
    cases hsecondary : (t.bucket c.secondary).insert ⟨c.fingerprint, tag⟩ with
    | some b =>
      rw [hsecondary] at h
      cases h
    | none =>
      rw [hsecondary] at h
      have hstart : (if coin t.draw.1 then c.primary else c.secondary) < t.draw.2.size := by
        split
        · exact lt_size_of_insert_eq_none hprimary
        · exact lt_size_of_insert_eq_none hsecondary
      have hwalk := walk_of_full merge maxKicks hstart h
      rwa [List.length_nil, Nat.zero_add] at hwalk

theorem place_congr {t : Table w v R} {c : Candidates w} {tag : Tag v}
    {merge merge' : Tag v → Tag v → Tag v}
    (h : ∀ kicks existing incoming,
      (t.place c tag merge).answer = .ok (.merged kicks existing incoming) →
        merge existing incoming = merge' existing incoming) :
    t.place c tag merge = t.place c tag merge' := by
  rw [place_eq] at h
  rw [place_eq, place_eq]
  cases hprimary : (t.bucket c.primary).insert ⟨c.fingerprint, tag⟩ with
  | some b => rfl
  | none =>
    rw [hprimary] at h
    cases hsecondary : (t.bucket c.secondary).insert ⟨c.fingerprint, tag⟩ with
    | some b => rfl
    | none =>
      rw [hsecondary] at h
      exact walk_congr maxKicks h

/-- A placement stores the new entry beside all the others, or leaves the buckets as they were. -/
theorem placed_place {t : Table w v R} (ht : IsTableSize t.size) {c : Candidates w}
    (hc : c.Fits t.layout) (tag : Tag v) (merge : Tag v → Tag v → Tag v) :
    Placed merge ((c.entryClass, tag) ::ₘ t.entries) t.buckets maxKicks (t.place c tag merge) := by
  have hs : Slot.occupied (⟨c.fingerprint, tag⟩ : Slot w v) := Slot.occupied_iff.2 hc.ne_zero
  rw [place_eq]
  split
  · rename_i b hb
    rw [hc.entryClass_eq]
    exact entries_insert hc.primary_lt hs hb
  · rename_i hp
    split
    · rename_i b hb
      rw [← hc.classAt_secondary]
      exact entries_insert (hc.secondary_lt ht) hs hb
    · rename_i hsec
      -- Both buckets are full, and the walk may start in either.
      have hwalk : ∀ i < t.size, (t.bucket i).insert ⟨c.fingerprint, tag⟩ = none →
          t.layout.classAt i c.fingerprint = c.entryClass →
          Placed merge ((c.entryClass, tag) ::ₘ t.entries) t.buckets maxKicks
            (t.draw.2.walk merge maxKicks i ⟨c.fingerprint, tag⟩ []) := by
        intro i hi hfull hclass
        have h := placed_walk merge maxKicks (t := t.draw.2) ht hi
          (Bucket.insert_eq_none_iff.1 hfull) hs []
        rwa [layout_draw, hclass, entries_draw, List.length_nil, Nat.zero_add] at h
      split
      · exact hwalk _ hc.primary_lt hp hc.entryClass_eq.symm
      · exact hwalk _ (hc.secondary_lt ht) hsec hc.classAt_secondary

theorem buckets_place_of_full {t : Table w v R} (ht : IsTableSize t.size) {c : Candidates w}
    (hc : c.Fits t.layout) {tag : Tag v} {merge : Tag v → Tag v → Tag v} {full : Full}
    (h : (t.place c tag merge).answer = .error full) :
    (t.place c tag merge).state.buckets = t.buckets ∧ full = ⟨maxKicks⟩ := by
  have hp := placed_place ht hc tag merge
  rw [Placed, h] at hp
  exact ⟨hp.1, by rw [← hp.2]⟩

theorem entries_place_of_full {t : Table w v R} (ht : IsTableSize t.size) {c : Candidates w}
    (hc : c.Fits t.layout) {tag : Tag v} {merge : Tag v → Tag v → Tag v} {full : Full}
    (h : (t.place c tag merge).answer = .error full) :
    (t.place c tag merge).state.entries = t.entries := by
  obtain ⟨hb, -⟩ := buckets_place_of_full ht hc h
  exact entries_congr hb (congrArg Layout.hash (layout_place t c tag merge))

theorem place_stores {t : Table w v R} (ht : IsTableSize t.size) {c : Candidates w}
    (hc : c.Fits t.layout) {tag : Tag v} {merge : Tag v → Tag v → Tag v} {p : Placement v}
    (h : (t.place c tag merge).answer = .ok p) :
    p.Stores merge ((c.entryClass, tag) ::ₘ t.entries) (t.place c tag merge).state.entries := by
  have hp := placed_place ht hc tag merge
  rwa [Placed, h] at hp

/-- Where no class is stored twice, placing one that is new adds its entry, or changes nothing. -/
theorem place_cases {t : Table w v R} (ht : IsTableSize t.size) {c : Candidates w}
    (hc : c.Fits t.layout) (hnodup : (t.entries.map Prod.fst).Nodup)
    (hnew : c.entryClass ∉ t.entries.map Prod.fst) (tag : Tag v) (merge : Tag v → Tag v → Tag v) :
    (∃ p, (t.place c tag merge).answer = .ok p ∧
        (t.place c tag merge).state.entries = (c.entryClass, tag) ::ₘ t.entries) ∨
      (t.place c tag merge).answer = .error ⟨maxKicks⟩ ∧
        (t.place c tag merge).state.entries = t.entries := by
  cases hanswer : (t.place c tag merge).answer with
  | ok p =>
    have hstores := place_stores ht hc hanswer
    have hall : (((c.entryClass, tag) ::ₘ t.entries).map Prod.fst).Nodup := by
      rw [Multiset.map_cons, Multiset.nodup_cons]
      exact ⟨hnew, hnodup⟩
    exact .inl ⟨p, rfl, (hstores.not_merged_of_nodup hall).1⟩
  | error full =>
    obtain ⟨-, rfl⟩ := buckets_place_of_full ht hc hanswer
    exact .inr ⟨rfl, entries_place_of_full ht hc hanswer⟩

end Table

end CuckooFilter
