import CuckooFilter.Proofs.ExpiringFilter.Sweep
import CuckooFilter.Proofs.PlainFilter.Occupancy

/-!
# A key that finds no room leaves no trace

A relocation walk that gives up puts every entry back, whatever the table holds, whatever is to be
placed and whatever words are drawn. So an addition that is refused for want of room has drawn words
and done nothing else, but that an expiring filter has aged as its timestamp bids before the key is
looked up (`full_leaves_no_trace`). It is refused only if both of its buckets are full by then.
-/

namespace CuckooFilter

variable {R : Type}

section Filters

/-- One of the key's buckets has an empty slot. -/
def PlainFilter.HasRoom (f : PlainFilter R) (key : Key) : Prop :=
  f.table.HasRoom (f.table.locate key.encoding)

def ExpiringFilter.HasRoom (f : ExpiringFilter R) (key : Key) : Prop :=
  f.table.HasRoom (f.table.locate key.encoding)

/-- One of the key's buckets has an empty slot once the filter has aged as the timestamp bids. -/
def ExpiringFilter.HasRoomAt (f : ExpiringFilter R) (key : Key) (timestamp : Nat) : Prop :=
  let n := f.interval timestamp
  (f.age (n * f.intervalSeconds) (position n)).state.HasRoom key

variable [WordSource R]

theorem PlainFilter.add_of_full {f : PlainFilter R} {key : Key} {full : Full}
    (h : (f.add key).answer = .error full) :
    (f.add key).state = { f with table := f.table.withWords (f.add key).state.table.words } ∧
      full = ⟨maxKicks⟩ ∧ ¬ f.HasRoom key := by
  rw [add_eq] at h ⊢
  cases hfind : f.table.find (f.table.locate key.encoding) with
  | some place =>
    rw [hfind] at h
    cases h
  | none =>
    rw [hfind] at h
    dsimp only at h ⊢
    split at h
    · rename_i refused hplace
      obtain rfl := Except.error.inj h
      obtain ⟨hstate, hfull, -⟩ := Table.place_of_full hplace
      exact ⟨congrArg (fun t => { f with table := t }) hstate, hfull,
        Table.not_hasRoom_of_full hplace⟩
    · cases h

theorem ExpiringFilter.store_of_full {f : ExpiringFilter R} {key : Key} {p : Position} {full : Full}
    (h : (f.store key p).answer = .error full) :
    (f.store key p).state =
        { f with table := f.table.withWords (f.store key p).state.table.words } ∧
      full = ⟨maxKicks⟩ ∧ ¬ f.HasRoom key := by
  rw [store_eq] at h ⊢
  cases hfind : f.table.find (f.table.locate key.encoding) with
  | some place =>
    rw [hfind] at h
    dsimp only at h
    split at h
    · cases h
    · cases h
  | none =>
    rw [hfind] at h
    dsimp only at h ⊢
    split at h
    · rename_i refused hplace
      obtain rfl := Except.error.inj h
      obtain ⟨hstate, hfull, -⟩ := Table.place_of_full hplace
      exact ⟨congrArg (fun t => { f with table := t }) hstate, hfull,
        Table.not_hasRoom_of_full hplace⟩
    · cases h

/-- An expiring filter has aged by the time that it finds no room. -/
theorem ExpiringFilter.add_of_full {f : ExpiringFilter R} {key : Key} {timestamp : Nat} {full : Full}
    (h : (f.add key timestamp).answer = .error full) :
    let aged := (f.age (f.interval timestamp * f.intervalSeconds)
      (position (f.interval timestamp))).state
    (f.add key timestamp).state =
        { aged with table := aged.table.withWords (f.add key timestamp).state.table.words } ∧
      full = ⟨maxKicks⟩ ∧ ¬ f.HasRoomAt key timestamp := by
  intro aged
  obtain ⟨hanswer, hstate⟩ := f.add_of_ne_expired key timestamp (by rw [h]; exact nofun)
  rw [hanswer] at h
  rw [hstate]
  exact aged.store_of_full h

end Filters

/-- A timestamp in an interval that has begun leaves a filter alone that is not loaded. -/
theorem ExpiringFilter.age_of_idle {f : ExpiringFilter R} {time : Nat} (htime : ¬ f.ring.time < time)
    (hload : ¬ f.overloaded) (p : Position) : (f.age time p).state = f := by
  rw [age_eq_caughtUp, caughtUp, if_neg htime, if_neg hload]

/-- A placement that fails on any table, of whatever candidates, has drawn words and reported that the
table is full; it has asked nothing of `merge`, as any other would have done. A filter that refuses a
key for want of room has only drawn words, after it has aged if it is an expiring one; and that changes
nothing unless the timestamp starts a later interval or the filter is loaded. No entry is refused while
one of its two buckets has an empty slot. -/
theorem full_leaves_no_trace [WordSource R] :
    (∀ {w v : Nat} (t : Table w v R) (c : Candidates w) (tag : Tag v) (merge : Tag v → Tag v → Tag v)
        (full : Full), (t.place c tag merge).answer = .error full →
      let t' := (t.place c tag merge).state
      t' = t.withWords t'.words ∧ (∀ i j, t'.slot i j = t.slot i j) ∧ t'.toBytes = t.toBytes ∧
        full = ⟨maxKicks⟩ ∧ (t.place c tag merge).events = [.full maxKicks t.size] ∧
        (∀ merge', t.place c tag merge' = t.place c tag merge) ∧ ¬ t.HasRoom c) ∧
    (∀ (f : PlainFilter R) (key : Key) (full : Full), (f.add key).answer = .error full →
      let f' := (f.add key).state
      f' = { f with table := f.table.withWords f'.table.words } ∧ full = ⟨maxKicks⟩ ∧
        ¬ f.HasRoom key) ∧
    ∀ (f : ExpiringFilter R) (key : Key) (timestamp : Nat) (full : Full),
      (f.add key timestamp).answer = .error full →
      let time := f.interval timestamp * f.intervalSeconds
      let aged := (f.age time (position (f.interval timestamp))).state
      let f' := (f.add key timestamp).state
      f' = { aged with table := aged.table.withWords f'.table.words } ∧ full = ⟨maxKicks⟩ ∧
        (¬ f.ring.time < time → ¬ f.overloaded → aged = f) ∧ ¬ aged.HasRoom key := by
  refine ⟨fun t c tag merge full h => ?_, fun f key full h => f.add_of_full h,
    fun f key timestamp full h => ?_⟩
  · obtain ⟨hstate, hfull, hevents⟩ := Table.place_of_full h
    intro t'
    replace hstate : t' = t.withWords t'.words := hstate
    refine ⟨hstate, fun i j => ?_, ?_, hfull, hevents, fun merge' => ?_, Table.not_hasRoom_of_full h⟩
    · rw [hstate]
      rfl
    · rw [hstate]
      rfl
    · refine (Table.place_congr fun kicks existing incoming hmerged => ?_).symm
      rw [h] at hmerged
      cases hmerged
  · intro time aged f'
    obtain ⟨hstate, hfull, hroom⟩ := f.add_of_full h
    exact ⟨hstate, hfull, fun htime hload => ExpiringFilter.age_of_idle htime hload _, hroom⟩

/-- Four keys fill the only bucket that the fifth one may be in, of the one bucket of a table and of the
two of each filter. -/
theorem full_leaves_no_trace_small :
    let four (w v : Nat) : Bucket w v := ⟨#v[⟨1, 0⟩, ⟨2, 0⟩, ⟨3, 0⟩, ⟨4, 0⟩]⟩
    let hash : HashFunction := fun bytes _ => .ofNat (ofLittleEndian bytes)
    let words : Nat → UInt64 := fun _ => 0
    let t : Table 8 8 (Nat → UInt64) := ⟨#[four 8 8], hash, words⟩
    let plain : PlainFilter (Nat → UInt64) :=
      ⟨{ capacity := 8, hash }, ⟨#[four 16 0, .empty], hash, words⟩, 4⟩
    let expiring : ExpiringFilter (Nat → UInt64) :=
      ⟨{ capacity := 8, hash }, ⟨#[four 32 8, .empty], hash, words⟩, 4, ⟨0, 256 * 60, none⟩⟩
    let key (w : Nat) : Key := .bytes (littleEndian 8 (5 <<< (64 - w)))
    let timestamp := 256 * 60 * nanosPerSecond
    ((t.place ⟨5, 0, 0⟩ 7 (· + ·)).answer = .error ⟨512⟩ ∧
        (t.place ⟨5, 0, 0⟩ 7 (· + ·)).state.toBytes = t.toBytes) ∧
      ((plain.add (key 16)).answer = .error ⟨512⟩ ∧
        (plain.add (key 16)).state.table.buckets = plain.table.buckets ∧
        (plain.add (key 16)).state.count = 4) ∧
      (expiring.add (key 32) timestamp).answer = .error ⟨512⟩ ∧
        (expiring.add (key 32) timestamp).state.table.buckets = expiring.table.buckets ∧
        (expiring.add (key 32) timestamp).state.count = 4 ∧
        (expiring.add (key 32) timestamp).state.ring = expiring.ring := by
  intro four hash words t plain expiring key timestamp
  obtain ⟨htable, hplain, hexpiring⟩ := full_leaves_no_trace (R := Nat → UInt64)
  have hrefused : (t.place ⟨5, 0, 0⟩ 7 (· + ·)).answer = .error ⟨512⟩ := by decide +kernel
  have hrefused' : (plain.add (key 16)).answer = .error ⟨512⟩ := by decide +kernel
  have hrefused'' : (expiring.add (key 32) timestamp).answer = .error ⟨512⟩ := by decide +kernel
  obtain ⟨-, -, hbytes, -⟩ := htable _ _ _ _ _ hrefused
  obtain ⟨hstate', -⟩ := hplain _ _ _ hrefused'
  obtain ⟨hstate'', -, hidle, -⟩ := hexpiring _ _ _ _ hrefused''
  rw [hidle (by decide +kernel) (by decide +kernel)] at hstate''
  refine ⟨⟨hrefused, hbytes⟩, ⟨hrefused', ?_, ?_⟩, hrefused'', ?_, ?_, ?_⟩
  · rw [hstate']
    rfl
  · rw [hstate']
  · rw [hstate'']
    rfl
  · rw [hstate'']
  · rw [hstate'']

end CuckooFilter
