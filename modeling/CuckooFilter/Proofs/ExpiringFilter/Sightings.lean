import CuckooFilter.Proofs.ExpiringFilter.Refinement
import CuckooFilter.Proofs.Memory.Sightings

/-!
# The order of sightings

Keys may be added out of order. If the filter has room for each of them and never so many classes that
it sweeps, then what it holds in the end is decided by the latest sighting of each class, and another
order gives the same answers, count and current interval (`ExpiringFilter.adds_commute`).
-/

namespace CuckooFilter.ExpiringFilter

/-- The class of a key and the interval of its timestamp. -/
def sighting (l : Layout) (seconds : Nat) (x : Key × UInt64) : EntryClass 32 × Nat :=
  (l.classOfKey 32 x.1, intervalAt seconds x.2)

variable {R : Type}

/-- The entries of a filter that recalls sightings. -/
theorem Represents.mem_entries_of_recalls {l : Layout} {seconds : Nat} {f : ExpiringFilter R}
    {m : Memory (EntryClass 32)} (h : Represents l seconds f m)
    {sightings : List (EntryClass 32 × Nat)} (hrecalls : m.Recalls sightings) (c : EntryClass 32)
    (p : Position) : (c, p) ∈ f.table.entries ↔
      ∃ n, LastSeen sightings c n ∧ m.newest ≤ n + 255 ∧ position n = p := by
  rw [h.entries_eq, Memory.mem_entries]
  constructor
  · rintro ⟨hc, hp⟩
    obtain ⟨hlast, hkept⟩ := (hrecalls.lookup_eq_some h.wellFormed).1 (if_pos hc)
    exact ⟨m.seen c, hlast, hkept, hp⟩
  · rintro ⟨n, hlast, hkept, hp⟩
    have hlookup := (hrecalls.lookup_eq_some h.wellFormed).2 ⟨hlast, hkept⟩
    obtain ⟨hc, rfl⟩ := Memory.lookup_eq_some.1 hlookup
    exact ⟨hc, hp⟩

/-- What a query shows of a filter that recalls sightings. -/
theorem Represents.query_eq_some_of_recalls {l : Layout} {seconds : Nat} {f : ExpiringFilter R}
    {m : Memory (EntryClass 32)} (h : Represents l seconds f m)
    {sightings : List (EntryClass 32 × Nat)} (hrecalls : m.Recalls sightings) (key : Key)
    (p : Position) : f.query key = some p ↔
      ∃ n, LastSeen sightings (l.classOfKey 32 key) n ∧ m.newest ≤ n + 255 ∧ position n = p := by
  rw [h.query_eq, Option.map_eq_some_iff]
  constructor
  · rintro ⟨n, hlookup, hp⟩
    obtain ⟨hlast, hkept⟩ := (hrecalls.lookup_eq_some h.wellFormed).1 hlookup
    exact ⟨n, hlast, hkept, hp⟩
  · rintro ⟨n, hlast, hkept, hp⟩
    exact ⟨n, (hrecalls.lookup_eq_some h.wellFormed).2 ⟨hlast, hkept⟩, hp⟩

variable [WordSource R]

/-- Adds a key with its timestamp. -/
def sight (f : ExpiringFilter R) (x : Key × UInt64) : ExpiringFilter R × Except Full AddOutcome :=
  let added := f.add x.1 x.2.toNat
  (added.state, added.answer)

/-- Adds all keys, one after the other. -/
def sightAll (f : ExpiringFilter R) (xs : List (Key × UInt64)) : ExpiringFilter R :=
  xs.foldl (fun f x => (f.sight x).1) f

namespace Represents

variable {l : Layout} {seconds : Nat} {f : ExpiringFilter R} {m : Memory (EntryClass 32)}

/-- A key that is not refused for want of room is added as one that there is room for. -/
theorem sight (h : Represents l seconds f m) (x : Key × UInt64) (hok : (f.sight x).2.isOk) :
    Represents l seconds (f.sight x).1
      (m.add l.slots (sighting l seconds x).1 (sighting l seconds x).2 true).1 := by
  obtain ⟨room, hanswer, hrep⟩ := h.add x.1 x.2
  have hroom : (m.add l.slots (sighting l seconds x).1 (sighting l seconds x).2 room).2.isOk :=
    hanswer ▸ hok
  rw [← Memory.add_room hroom]
  exact hrep

theorem sightAll (h : Represents l seconds f m) (xs : List (Key × UInt64))
    (hok : ∀ answer ∈ trace ExpiringFilter.sight f xs, answer.isOk) :
    Represents l seconds (f.sightAll xs)
      ((xs.map (sighting l seconds)).foldl (fun m x => (m.add l.slots x.1 x.2 true).1) m) := by
  induction xs generalizing f m with
  | nil => exact h
  | cons x xs ih =>
    rw [trace, List.forall_mem_cons] at hok
    rw [List.map_cons, List.foldl_cons]
    exact ih (h.sight x hok.1) hok.2

/-- A filter that takes all keys without a sweep recalls the sightings of their classes. -/
theorem recalls_sightAll (h : Represents l seconds f {}) (xs : List (Key × UInt64))
    (hok : ∀ answer ∈ trace ExpiringFilter.sight f xs, answer.isOk)
    (hfew : 5 * (xs.map fun x => l.classOfKey 32 x.1).toFinset.card < 4 * l.slots) :
    ∃ m, Represents l seconds (f.sightAll xs) m ∧ m.Recalls (xs.map (sighting l seconds)) ∧
      m.newest = newestOf (xs.map (sighting l seconds)) := by
  have hclasses : (xs.map (sighting l seconds)).map Prod.fst =
      xs.map fun x => l.classOfKey 32 x.1 := List.map_map
  have hrecalls := Memory.recalls_foldl Memory.recalls_empty (xs.map (sighting l seconds))
    (show 5 * _ < 4 * l.slots by rwa [List.nil_append, hclasses])
  rw [List.nil_append] at hrecalls
  exact ⟨_, h.sightAll xs hok, hrecalls, Memory.newest_foldl {} _⟩

end Represents

/-- Keys may be added in any order: as long as there is room for each of them, and their classes are
too few for a sweep, the filter ends up with the same count, current interval and answers. It holds
the classes whose latest sighting is in an interval still kept, with the positions of these, and a
query of a key shows the position of its class, or nothing of a class that the filter does not hold. -/
theorem adds_commute {R' : Type} [WordSource R'] {config : ExpiringConfig}
    (hv : config.validate = .ok ()) (words : R) (words' : R') {xs xs' : List (Key × UInt64)}
    (hperm : xs.Perm xs')
    (hfew : 5 * (xs.map fun x => config.layout.classOfKey 32 x.1).toFinset.card <
      4 * config.layout.slots) :
    ∃ f f', create config words = .ok f ∧ create config words' = .ok f' ∧
      ((∀ answer ∈ trace sight f xs, answer.isOk) → (∀ answer ∈ trace sight f' xs', answer.isOk) →
        let sightings := xs.map (sighting config.layout config.intervalSeconds)
        let newest := newestOf sightings
        (f.sightAll xs).count = (f'.sightAll xs').count ∧
          (f.sightAll xs).currentInterval = (f'.sightAll xs').currentInterval ∧
          (∀ key, (f.sightAll xs).query key = (f'.sightAll xs').query key) ∧
          (f.sightAll xs).currentInterval =
            (newest * config.intervalSeconds * nanosPerSecond, position newest) ∧
          (∀ c p, (c, p) ∈ (f.sightAll xs).table.entries ↔
            ∃ n, LastSeen sightings c n ∧ newest ≤ n + 255 ∧ position n = p) ∧
          ∀ key p, (f.sightAll xs).query key = some p ↔
            ∃ n, LastSeen sightings (config.layout.classOfKey 32 key) n ∧
              newest ≤ n + 255 ∧ position n = p) := by
  obtain ⟨f, hf, hempty⟩ := represents_create hv words
  obtain ⟨f', hf', hempty'⟩ := represents_create hv words'
  refine ⟨f, f', hf, hf', fun hok hok' => ?_⟩
  have hclasses : (xs'.map fun x => config.layout.classOfKey 32 x.1).toFinset =
      (xs.map fun x => config.layout.classOfKey 32 x.1).toFinset :=
    (List.toFinset_eq_of_perm _ _ (hperm.map _)).symm
  obtain ⟨m, hrep, hrecalls, hnewest⟩ := hempty.recalls_sightAll xs hok hfew
  obtain ⟨m', hrep', hrecalls', hnewest'⟩ := hempty'.recalls_sightAll xs' hok' (hclasses ▸ hfew)
  have hsightings := hperm.map (sighting config.layout config.intervalSeconds)
  have hsame : m'.newest = m.newest := by rw [hnewest, hnewest', newestOf_congr hsightings]
  have hlookup := hrecalls.lookup_eq_of_perm hrep.wellFormed hrecalls' hrep'.wellFormed hsightings
    hsame.symm
  intro sightings newest
  have hnewest : m.newest = newest := hnewest
  refine ⟨?_, ?_, fun key => ?_, ?_, ?_, ?_⟩
  · rw [hrep.count_eq_card, hrep'.count_eq_card, Memory.classes_eq_of_lookup hlookup]
  · rw [hrep.currentInterval_eq, hrep'.currentInterval_eq, hsame]
  · rw [hrep.query_eq, hrep'.query_eq, hlookup]
  · rw [hrep.currentInterval_eq, hnewest]
  · rw [← hnewest]
    exact hrep.mem_entries_of_recalls hrecalls
  · rw [← hnewest]
    exact hrep.query_eq_some_of_recalls hrecalls

/-- Two keys, seen in the intervals 300, 10 and 290. When interval 300 comes first, interval 10 is too
old to be kept; in the other order it is forgotten as interval 300 begins. Either way a query shows
the later sighting of the first key, and nothing of the second one. -/
theorem adds_commute_small :
    let config : ExpiringConfig :=
      { capacity := 8, hash := fun bytes _ => .ofNat (ofLittleEndian bytes) }
    let late := (Key.text "a", UInt64.ofNat (300 * 60 * nanosPerSecond))
    let early := [(Key.text "b", UInt64.ofNat (10 * 60 * nanosPerSecond)),
      (Key.text "a", UInt64.ofNat (290 * 60 * nanosPerSecond))]
    ∃ f f', create config (fun _ => 0 : Nat → UInt64) = .ok f ∧
      create config (fun _ => 1 : Nat → UInt64) = .ok f' ∧
      (f.sightAll (late :: early)).count = (f'.sightAll (early ++ [late])).count ∧
      (f.sightAll (late :: early)).currentInterval = (300 * 60 * nanosPerSecond, position 300) ∧
      (∀ key, (f.sightAll (late :: early)).query key = (f'.sightAll (early ++ [late])).query key) ∧
      (f.sightAll (late :: early)).query (.text "a") = some 44 ∧
      (f.sightAll (late :: early)).query (.text "b") = none := by
  intro config late early
  have hv : config.validate = .ok () := rfl
  have hperm : (late :: early).Perm (early ++ [late]) := (List.perm_append_singleton late early).symm
  obtain ⟨f, f', hf, hf', hsame⟩ := adds_commute hv (fun _ => 0 : Nat → UInt64)
    (fun _ => 1 : Nat → UInt64) hperm (by decide +kernel)
  refine ⟨f, f', hf, hf', ?_⟩
  cases hf
  cases hf'
  obtain ⟨hcount, -, hquery, hcurrent, -, hvalue⟩ := hsame (by decide +kernel) (by decide +kernel)
  have hsightings : (late :: early).map (sighting config.layout config.intervalSeconds) =
      [(config.layout.classOfKey 32 (.text "a"), 300), (config.layout.classOfKey 32 (.text "b"), 10),
        (config.layout.classOfKey 32 (.text "a"), 290)] := by decide +kernel
  have hne : config.layout.classOfKey 32 (.text "a") ≠ config.layout.classOfKey 32 (.text "b") := by
    decide +kernel
  have hnewest : newestOf ((late :: early).map (sighting config.layout config.intervalSeconds)) =
      300 := by
    rw [hsightings]
    rfl
  rw [hnewest, hsightings] at hvalue
  refine ⟨hcount, hcurrent.trans (by decide +kernel), hquery, ?_, ?_⟩
  · refine (hvalue (.text "a") 44).2 ⟨300, ⟨List.mem_cons_self, fun n hn => ?_⟩, by decide, rfl⟩
    have hseen : n = 300 ∨ n = 290 := by simpa [hne] using hn
    omega
  · rw [Option.eq_none_iff_forall_ne_some]
    intro p hp
    obtain ⟨n, hlast, hkept, -⟩ := (hvalue (.text "b") p).1 hp
    have hseen : n = 10 := by simpa [hne.symm] using hlast.1
    omega

end CuckooFilter.ExpiringFilter
