import CuckooFilter.Proofs.ExpiringFilter.Consistency
import Mathlib.Order.Lattice.Nat

/-!
# The newest entry of a class

An image may have brought a class several times, with tags in any order. Of those entries the newest one
says when the class was last seen (`Ring.newest`). A walk that merges two entries keeps the newer tag,
whichever class it is that had two, and a key that is present gets the newer one of two tags. So an
addition brings the class of its key up to date and changes no other one
(`ExpiringFilter.newest_sighting_kept`).

* `Ring.newest_eq_bot_iff`, `Ring.newest_eq_coe_iff`: what the newest entry is;
* `Placement.Stores.newest_eq`: a placement keeps it, if the merged tag is the newer one.
-/

namespace CuckooFilter

variable {R : Type}

/-! ## Entries of a class -/

namespace Ring

variable {r : Ring} {c : EntryClass 32} {e : Entry 32 8} {entries : Multiset (Entry 32 8)}

/-- How recent an entry is as one of class `c`, to which others do not count. -/
def recencyIn (r : Ring) (c : EntryClass 32) (e : Entry 32 8) : WithBot Nat :=
  if e.1 = c then WithBot.some (r.recency e.2) else ⊥

/-- How recent the newest entry of a class is, if the class has one. -/
def newest (r : Ring) (entries : Multiset (Entry 32 8)) (c : EntryClass 32) : WithBot Nat :=
  (entries.map (r.recencyIn c)).sup

/-- Of two tags the newer one, the first one if they are equal. -/
def newer (r : Ring) (existing incoming : Position) : Position :=
  if r.isNewer incoming existing then incoming else existing

theorem newest_cons (r : Ring) (e : Entry 32 8) (entries : Multiset (Entry 32 8))
    (c : EntryClass 32) :
    r.newest (e ::ₘ entries) c = max (r.recencyIn c e) (r.newest entries c) := by
  rw [newest, Multiset.map_cons, Multiset.sup_cons, newest]

theorem newest_cons_of_ne (h : e.1 ≠ c) : r.newest (e ::ₘ entries) c = r.newest entries c := by
  rw [newest_cons, recencyIn, if_neg h, max_eq_right bot_le]

theorem newest_cons_self (r : Ring) (c : EntryClass 32) (p : Position)
    (entries : Multiset (Entry 32 8)) :
    r.newest ((c, p) ::ₘ entries) c = max (WithBot.some (r.recency p)) (r.newest entries c) := by
  rw [newest_cons, recencyIn, if_pos rfl]

theorem recencyIn_le_newest (h : e ∈ entries) (c : EntryClass 32) :
    r.recencyIn c e ≤ r.newest entries c :=
  Multiset.le_sup (Multiset.mem_map_of_mem _ h)

/-- By induction on the entries. -/
theorem newest_cases (r : Ring) (entries : Multiset (Entry 32 8)) (c : EntryClass 32) :
    (c ∉ entries.map Prod.fst ∧ r.newest entries c = ⊥) ∨
      ∃ p, (c, p) ∈ entries ∧ r.newest entries c = WithBot.some (r.recency p) := by
  induction entries using Multiset.induction_on with
  | empty => exact .inl ⟨Multiset.notMem_zero _, rfl⟩
  | cons e entries ih =>
    obtain ⟨d, p⟩ := e
    rw [Multiset.map_cons, Multiset.mem_cons, not_or]
    by_cases hc : d = c
    · subst hc
      rw [newest_cons_self]
      obtain hmax | hmax := max_choice (WithBot.some (r.recency p)) (r.newest entries d)
      · exact .inr ⟨p, Multiset.mem_cons_self .., hmax⟩
      · rw [hmax]
        obtain ⟨-, hbot⟩ | ⟨p, hp, hnewest⟩ := ih
        · rw [hbot] at hmax
          exact absurd (le_bot_iff.1 (max_eq_right_iff.1 hmax)) WithBot.coe_ne_bot
        · exact .inr ⟨p, Multiset.mem_cons_of_mem hp, hnewest⟩
    · rw [newest_cons_of_ne hc]
      obtain ⟨hnot, hbot⟩ | ⟨p, hp, hnewest⟩ := ih
      · exact .inl ⟨⟨Ne.symm hc, hnot⟩, hbot⟩
      · exact .inr ⟨p, Multiset.mem_cons_of_mem hp, hnewest⟩

/-- A class has no newest entry if it has none. -/
theorem newest_eq_bot_iff : r.newest entries c = ⊥ ↔ c ∉ entries.map Prod.fst := by
  obtain ⟨hnot, hbot⟩ | ⟨p, hp, hnewest⟩ := r.newest_cases entries c
  · exact iff_of_true hbot hnot
  · rw [hnewest]
    exact iff_of_false WithBot.coe_ne_bot (not_not.2 (Multiset.mem_map_of_mem Prod.fst hp))

theorem newest_eq_coe_iff {p : Position} : r.newest entries c = WithBot.some (r.recency p) ↔
    (c, p) ∈ entries ∧ ∀ q, (c, q) ∈ entries → r.recency q ≤ r.recency p := by
  have hle : ∀ q, (c, q) ∈ entries → WithBot.some (r.recency q) ≤ r.newest entries c := by
    intro q hq
    have hrecency := recencyIn_le_newest (r := r) hq c
    rwa [recencyIn, if_pos rfl] at hrecency
  constructor
  · intro h
    rw [h] at hle
    obtain ⟨-, hbot⟩ | ⟨q, hq, hnewest⟩ := r.newest_cases entries c
    · rw [hbot] at h
      exact absurd h.symm WithBot.coe_ne_bot
    · rw [hnewest, WithBot.coe_inj, recency_inj] at h
      exact ⟨h ▸ hq, fun q hq => WithBot.coe_le_coe.1 (hle q hq)⟩
  · rintro ⟨hp, hmax⟩
    refine le_antisymm ?_ (hle p hp)
    obtain ⟨-, hbot⟩ | ⟨q, hq, hnewest⟩ := r.newest_cases entries c
    · rw [hbot]
      exact bot_le
    · rw [hnewest]
      exact WithBot.coe_le_coe.2 (hmax q hq)

/-! ## Merged entries -/

theorem recency_newer (r : Ring) (existing incoming : Position) :
    r.recency (r.newer existing incoming) = max (r.recency existing) (r.recency incoming) := by
  rw [newer, isNewer]
  split
  · rename_i hnewer
    exact (max_eq_right (of_decide_eq_true hnewer).le).symm
  · rename_i holder
    exact (max_eq_left (not_lt.1 (mt decide_eq_true holder))).symm

theorem recencyIn_newer (r : Ring) (c d : EntryClass 32) (existing incoming : Position) :
    r.recencyIn c (d, r.newer existing incoming) =
      max (r.recencyIn c (d, existing)) (r.recencyIn c (d, incoming)) := by
  unfold recencyIn
  split
  · rw [recency_newer]
    exact WithBot.coe_max ..
  · rw [max_self]

/-- An entry that is no newer than another one of its class makes no difference. -/
theorem newest_cons_of_not_isNewer {d : EntryClass 32} {existing incoming : Position}
    (hmem : (d, existing) ∈ entries) (holder : ¬ r.isNewer incoming existing) (c : EntryClass 32) :
    r.newest ((d, incoming) ::ₘ entries) c = r.newest entries c := by
  have hmax := r.recencyIn_newer c d existing incoming
  rw [newer, if_neg holder] at hmax
  rw [newest_cons]
  exact max_eq_right ((max_eq_left_iff.1 hmax.symm).trans (recencyIn_le_newest hmem c))

end Ring

/-- A placement that merges into the newer tag keeps the newest entry of each class. -/
theorem Placement.Stores.newest_eq {r : Ring} {all stored : Multiset (Entry 32 8)} {p : Placement 8}
    (h : p.Stores r.newer all stored) (c : EntryClass 32) : r.newest stored c = r.newest all c := by
  cases p with
  | direct => rw [show stored = all from h]
  | relocated kicks => rw [show stored = all from h]
  | merged kicks existing incoming =>
    obtain ⟨d, rest, rfl, rfl⟩ := h
    rw [Ring.newest_cons, Ring.newest_cons, Ring.newest_cons, Ring.recencyIn_newer, max_assoc]

namespace ExpiringFilter

variable {f : ExpiringFilter R} {key : Key} {outcome : AddOutcome}

/-- How recent the newest entry of a class is in the filter. -/
def newest (f : ExpiringFilter R) (c : EntryClass 32) : WithBot Nat :=
  f.ring.newest f.table.entries c

/-- A class that is not in the filter has no newest entry. -/
theorem newest_eq_bot_iff {c : EntryClass 32} :
    f.newest c = ⊥ ↔ c ∉ f.table.entries.map Prod.fst :=
  Ring.newest_eq_bot_iff

variable [WordSource R]

@[simp] theorem ring_store (f : ExpiringFilter R) (key : Key) (position : Position) :
    (f.store key position).state.ring = f.ring := by
  rw [store_eq]
  split
  · dsimp only
    split
    · rfl
    · rfl
  · dsimp only
    split
    · rfl
    · rfl

/-- A key that is stored, or found present, is as good as one more entry. -/
theorem newest_store (h : f.WellBuilt) {p : Position} (hok : (f.store key p).answer = .ok outcome)
    (c : EntryClass 32) :
    (f.store key p).state.newest c =
      f.ring.newest ((f.config.layout.classOfKey 32 key, p) ::ₘ f.table.entries) c := by
  have hfits : (f.table.locate key.encoding).Fits f.table.layout :=
    Table.fits_locate h.isTableSize (by decide) key.encoding
  have hclass : (f.table.locate key.encoding).entryClass = f.config.layout.classOfKey 32 key := by
    rw [Table.entryClass_locate, h.layout_eq, Layout.classOfKey]
  rw [← hclass]
  rw [store_eq] at hok ⊢
  cases hfind : f.table.find (f.table.locate key.encoding) with
  | some place =>
    obtain ⟨i, j⟩ := place
    have hold := Table.holds_of_find h.isTableSize hfits hfind
    dsimp only
    split
    · rename_i hnewer
      -- The entry that is found takes the newer tag, as if the key were merged into it.
      have hstores := hold.stores_setTag f.ring.newer 0 p
      rw [Ring.newer, if_pos hnewer] at hstores
      exact hstores.newest_eq c
    · rename_i holder
      exact (Ring.newest_cons_of_not_isNewer hold.mem_entries holder c).symm
  | none =>
    rw [hfind] at hok
    dsimp only at hok ⊢
    split at hok
    · cases hok
    · rename_i placement hplace
      have hstores := Table.place_stores h.isTableSize hfits hplace
      exact Placement.Stores.newest_eq hstores c

/-- Whatever the table holds, an addition that stores its key or finds it present makes the class of the
key as recent as the interval of the timestamp, unless that class was more recent already once the
filter had aged. Every other class is as recent as it was, and present if it was. -/
theorem newest_sighting_kept (h : f.WellBuilt) {timestamp : Nat}
    (hadd : (f.add key timestamp).answer = .ok outcome) (hkept : outcome ≠ .expired) :
    let n := f.interval timestamp
    let aged := (f.age (n * f.intervalSeconds) (position n)).state
    let f' := (f.add key timestamp).state
    let c := f.config.layout.classOfKey 32 key
    f'.ring = aged.ring ∧
      f'.newest c = max (aged.newest c) (WithBot.some (aged.ring.recency (position n))) ∧
      ∀ d, d ≠ c → f'.newest d = aged.newest d ∧
        (d ∈ f'.table.entries.map Prod.fst ↔ d ∈ aged.table.entries.map Prod.fst) := by
  intro n aged f' c
  have hanswered : (f.add key timestamp).answer ≠ .ok .expired := by
    rw [hadd]
    exact fun hexpired => hkept (Except.ok.inj hexpired)
  obtain ⟨hanswer, hstate⟩ := f.add_of_ne_expired key timestamp hanswered
  have haged : aged.WellBuilt := wellBuilt_age h _ _
  have hclass : aged.config.layout.classOfKey 32 key = c := by rw [config_age]
  have hstored : ∀ d, f'.newest d =
      aged.ring.newest ((c, position n) ::ₘ aged.table.entries) d := by
    intro d
    rw [show f' = (aged.store key (position n)).state from hstate, ← hclass]
    exact newest_store haged (hanswer.symm.trans hadd) d
  have hother : ∀ d, d ≠ c → f'.newest d = aged.newest d := by
    intro d hd
    rw [hstored d, Ring.newest_cons_of_ne hd.symm, newest]
  refine ⟨?_, ?_, fun d hd => ⟨hother d hd, ?_⟩⟩
  · rw [show f' = (aged.store key (position n)).state from hstate, ring_store]
  · rw [hstored c, Ring.newest_cons_self, max_comm, newest]
  · rw [← not_iff_not, ← newest_eq_bot_iff, ← newest_eq_bot_iff, hother d hd]

/-- A bucket is full of copies of one fingerprint, the newest of interval 266 at position 10. The key that
is added displaces an older one at position 250, which is merged into the newest. -/
theorem newest_sighting_kept_copies :
    let copy (tag : Tag 8) : Slot 32 8 := ⟨7, tag⟩
    let f : ExpiringFilter (Nat → UInt64) :=
      ⟨{ capacity := 8, hash := fun _ _ => 0 },
        ⟨#[⟨#v[copy 250, copy 10, copy 100, copy 200]⟩, .empty], fun _ _ => 0, fun _ => 0⟩, 4,
        ⟨44, 300 * 60, none⟩⟩
    let n := f.interval (300 * 60 * nanosPerSecond)
    let aged := (f.age (n * f.intervalSeconds) (position n)).state
    let f' := (f.add (.bytes []) (300 * 60 * nanosPerSecond)).state
    let d := f.config.layout.classAt 0 7
    (f.add (.bytes []) (300 * 60 * nanosPerSecond)).answer = .ok .added ∧ f'.count = 4 ∧
      aged.newest d = WithBot.some (f.ring.recency 10) ∧ f'.newest d = aged.newest d ∧
      f'.newest (f.config.layout.classOfKey 32 (.bytes [])) = WithBot.some 255 := by
  intro copy f n aged f' d
  have hf : f.WellBuilt := ⟨rfl, congrArg (Layout.mk _) (by decide +kernel)⟩
  have hadd : (f.add (.bytes []) (300 * 60 * nanosPerSecond)).answer = .ok .added := by
    decide +kernel
  obtain ⟨-, hkey, hother⟩ := newest_sighting_kept hf hadd nofun
  have hd : d ≠ f.config.layout.classOfKey 32 (.bytes []) := by decide +kernel
  exact ⟨hadd, by decide +kernel, by decide +kernel, (hother d hd).1,
    hkey.trans (by decide +kernel)⟩

end ExpiringFilter

end CuckooFilter
