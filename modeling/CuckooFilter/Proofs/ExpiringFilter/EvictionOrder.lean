import CuckooFilter.Proofs.ExpiringFilter.Refinement
import CuckooFilter.Proofs.Memory.Cursor

/-!
# The order of eviction

A sweep evicts the interval at the cursor if that has entries. The cursor is set to the oldest such
interval as the filter moves on to a later one and after a sweep; in between, keys that are seen late
may be stored behind it. So a sweep evicts the oldest interval if the key to be added starts a later
interval, or if no key was added late since the filter was empty, and otherwise exactly if the
cursor is not past an interval that has entries (`ExpiringFilter.sweeps_oldest`). A late key can be
passed over (`ExpiringFilter.late_key_passed_over`).
-/

namespace CuckooFilter.ExpiringFilter

variable {R : Type} {l : Layout} {seconds : Nat} {f : ExpiringFilter R} {m : Memory (EntryClass 32)}

/-- The cursor of a filter stands where that of its memory does. -/
theorem Represents.cursorOldest (h : Represents l seconds f m) (hm : m.CursorFirst) :
    f.CursorOldest := by
  have hcurrent : f.ring.current = position m.newest := by rw [h.ring_eq]; rfl
  have hge := h.wellFormed.newest_ge
  intro p hp hlive q hq
  obtain ⟨n, hn, rfl⟩ : ∃ n ∈ m.cursor, position n = p := by
    rw [h.ring_eq] at hp
    exact Option.mem_map.1 hp
  obtain ⟨c, hc, rfl⟩ := (mem_liveTags h.entries_eq).1 hq
  rw [Ring.recency_position hcurrent hge (h.wellFormed.cursor_kept n hn),
    Ring.recency_position hcurrent hge (h.wellFormed.kept c hc)]
  exact Nat.sub_le_sub_right (hm n hn c hc) _

/-- The cursor is set as the filter moves on. -/
theorem Represents.cursorOldest_caughtUp (h : Represents l seconds f m) {n : Nat}
    (htime : n * seconds * nanosPerSecond < 2 ^ 64)
    (hm : f.ring.time < n * seconds ∨ m.CursorFirst) :
    (f.caughtUp (n * seconds) (position n)).CursorOldest := by
  refine (h.caughtUp htime).cursorOldest ?_
  by_cases hn : m.newest < n
  · rw [if_pos hn]
    exact Memory.cursorFirst_oldest { m.forget (· < n - 255) with newest := n }
  · rw [if_neg hn]
    exact hm.resolve_left (mt h.later_iff.1 hn)

/-- What aging evicts is the oldest, exactly if a sweep would find the cursor where it should be. -/
theorem evictsOldest_age (f : ExpiringFilter R) (time : Nat) (position : Position) :
    (f.caughtUp time position).ring.EvictsOldest (f.caughtUp time position).table.entries
        (f.age time position).state.table.entries ↔
      ((f.caughtUp time position).overloaded → (f.caughtUp time position).CursorOldest) := by
  rw [age_eq_caughtUp]
  generalize f.caughtUp time position = g
  by_cases hover : g.overloaded
  · rw [if_pos hover, evictsOldest_sweep_iff]
    exact ⟨fun h _ => h, fun h => h hover⟩
  · rw [if_neg hover]
    exact iff_of_true (fun e he hevicted => absurd he hevicted) fun h => absurd h hover

variable [WordSource R]

theorem state_add_of_kept {key : Key} {timestamp : Nat}
    (h : (f.add key timestamp).answer ≠ .ok .expired) :
    let n := f.interval timestamp
    (f.add key timestamp).state =
      ((f.age (n * f.intervalSeconds) (position n)).state.store key (position n)).state :=
  (add_of_ne_expired f key timestamp h).2

/-- By induction on the requests, of which the latest sighting was in interval `latest`: the memory
stays ordered. -/
theorem Represents.cursorFirst_run (h : Represents l seconds f m) {latest : Nat}
    (hm : m.Ordered latest) (requests : List (Request Key UInt64))
    (hsorted : (latest :: (requests.filterMap Request.time?).map (intervalAt seconds)).Pairwise
      (· ≤ ·)) :
    ∃ m', Represents l seconds ((requests.map .request).foldl execute f) m' ∧ m'.CursorFirst := by
  induction requests generalizing f m latest with
  | nil => exact ⟨m, h, hm.cursorFirst⟩
  | cons request requests ih =>
    cases request with
    | add key timestamp =>
      rw [List.filterMap_cons_some (f := Request.time?) rfl, List.map_cons] at hsorted
      obtain ⟨hle, hrest⟩ := List.pairwise_cons.1 hsorted
      obtain ⟨room, -, hadd⟩ := h.add key timestamp
      exact ih hadd (hm.add (hle _ List.mem_cons_self) _ _ room) hrest
    | query key => exact ih h hm hsorted
    | delete key => exact ih (h.delete key).2 (hm.erase _) hsorted
    | clear => exact ih h.clear (Memory.ordered_empty latest) hsorted

/-- What an addition of a key seen at `timestamp` evicts from any filter that was filled by requests:
the oldest entries, if the cursor is not past an interval that has entries, if the timestamp starts a
later interval, or if no key before it was added late. -/
theorem sweeps_oldest {config : ExpiringConfig} (hv : config.validate = .ok ()) (words : R) :
    ∃ f₀, create config words = .ok f₀ ∧
      ∀ (requests : List (Request Key UInt64)) (timestamp : UInt64),
        let f := (requests.map .request).foldl execute f₀
        let n := intervalAt config.intervalSeconds timestamp
        let time := n * config.intervalSeconds
        let before := f.caughtUp time (position n)
        let after := (f.age time (position n)).state
        let oldestFirst := before.ring.EvictsOldest before.table.entries after.table.entries
        (∀ key, (f.add key timestamp.toNat).answer ≠ .ok .expired →
            (f.add key timestamp.toNat).state = (after.store key (position n)).state) ∧
          (oldestFirst ↔ (before.overloaded → before.CursorOldest)) ∧
          (f.ring.time < time → oldestFirst) ∧
          (((requests.filterMap Request.time?).map
            (intervalAt config.intervalSeconds)).Pairwise (· ≤ ·) → oldestFirst) := by
  obtain ⟨f₀, hf₀, hempty⟩ := represents_create hv words
  refine ⟨f₀, hf₀, fun requests timestamp => ?_⟩
  have htime := intervalAt_lt config.intervalSeconds timestamp
  intro f n time before after oldestFirst
  have hiff : oldestFirst ↔ (before.overloaded → before.CursorOldest) :=
    evictsOldest_age f time (position n)
  obtain ⟨m, hrep⟩ := represents_run hempty requests
  refine ⟨fun key hkept => ?_, hiff, fun hlater => hiff.2 fun _ => ?_,
    fun hsorted => hiff.2 fun _ => ?_⟩
  · have hstored := state_add_of_kept hkept
    rwa [interval_toNat, hrep.seconds_eq] at hstored
  · exact hrep.cursorOldest_caughtUp htime (.inl hlater)
  · obtain ⟨m, hrep, hm⟩ := hempty.cursorFirst_run (Memory.ordered_empty 0) requests
      (List.pairwise_cons.2 ⟨fun _ _ => Nat.zero_le _, hsorted⟩)
    exact hrep.cursorOldest_caughtUp htime (.inr hm)

/-! ## Keys that come late -/

/-- The word that eight bytes stand for. -/
def wordHash : HashFunction :=
  fun bytes _ => .ofNat (ofLittleEndian bytes)

/-- A key with the given fingerprint and first bucket, where keys are hashed to the words they stand
for. -/
def wordKey (fingerprint bucket : Nat) : Key :=
  .bytes (littleEndian 8 (fingerprint <<< 32 + bucket))

/-- The start of a minute in nanoseconds. -/
def minute (n : Nat) : UInt64 :=
  .ofNat (n * 60 * nanosPerSecond)

/-- Adds such a key, seen as minute `n` starts. -/
def addWord (fingerprint bucket n : Nat) : Request Key UInt64 :=
  .add (wordKey fingerprint bucket) (minute n)

/-- Eight slots; the keys are seen in the minutes 290, 300 and 301, in this order, and an eighth one
sweeps minute 290. -/
theorem sweeps_oldest_small :
    let config : ExpiringConfig := { capacity := 8, hash := wordHash }
    let requests :=
      [addWord 3 0 290, addWord 1 0 300, addWord 2 0 301, addWord 4 0 301, addWord 1 1 301,
        addWord 2 1 301, addWord 3 1 301]
    ∃ f₀, create config (fun _ => 0 : Nat → UInt64) = .ok f₀ ∧
      let f := (requests.map .request).foldl execute f₀
      let before := f.caughtUp (301 * config.intervalSeconds) (position 301)
      let after := (f.age (301 * config.intervalSeconds) (position 301)).state
      before.overloaded ∧ before.ring.EvictsOldest before.table.entries after.table.entries := by
  intro config requests
  have hv : config.validate = .ok () := rfl
  obtain ⟨f₀, hf₀, hrun⟩ := sweeps_oldest hv (fun _ => 0 : Nat → UInt64)
  have hminute : intervalAt config.intervalSeconds (minute 301) = 301 := by decide
  obtain ⟨-, -, -, hsorted⟩ := hrun requests (minute 301)
  cases hf₀
  have hold := hsorted (by decide +kernel)
  rw [hminute] at hold
  exact ⟨_, rfl, by decide +kernel, hold⟩

/-- The same keys, but that the one of minute 290 comes after minute 301 has begun. The eighth key
evicts minute 300, where the cursor stands, and leaves minute 290. -/
theorem late_key_passed_over :
    let config : ExpiringConfig := { capacity := 8, hash := wordHash }
    let requests :=
      [addWord 1 0 300, addWord 2 0 301, addWord 3 0 290, addWord 4 0 301, addWord 1 1 301,
        addWord 2 1 301, addWord 3 1 301]
    ∃ f₀, create config (fun _ => 0 : Nat → UInt64) = .ok f₀ ∧
      let f := (requests.map .request).foldl execute f₀
      let before := f.caughtUp (301 * config.intervalSeconds) (position 301)
      let after := (f.age (301 * config.intervalSeconds) (position 301)).state
      (f.add (wordKey 4 1) (minute 301).toNat).answer = .ok .added ∧ before.overloaded ∧
        ¬ before.ring.EvictsOldest before.table.entries after.table.entries := by
  intro config requests
  let evicted := config.layout.classOf 32 (littleEndian 8 (1 <<< 32))
  let kept := config.layout.classOf 32 (littleEndian 8 (3 <<< 32))
  refine ⟨_, rfl, by decide +kernel, by decide +kernel, fun hold => ?_⟩
  have hle := hold (evicted, position 300) (by decide +kernel) (by decide +kernel)
    (kept, position 290) (by decide +kernel)
  exact absurd hle (by decide +kernel)

end CuckooFilter.ExpiringFilter
