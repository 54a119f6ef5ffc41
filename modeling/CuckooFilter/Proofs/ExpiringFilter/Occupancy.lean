import CuckooFilter.ExpiringFilter
import CuckooFilter.Proofs.Request
import CuckooFilter.Proofs.Ring
import CuckooFilter.Proofs.Table.Occupancy

/-!
# The number of entries of an expiring filter

What each operation of an expiring filter does to its table, its count and its ring, and that table
and count agree after every command (`ExpiringFilter.counted_execute`), whatever was restored before.
-/

namespace CuckooFilter

/-- The number of the interval of `seconds` that a timestamp in nanoseconds lies in. -/
def intervalAt (seconds : Nat) (timestamp : UInt64) : Nat :=
  timestamp.toNat / nanosPerSecond / seconds

/-- Such an interval starts before the timestamp. -/
theorem intervalAt_lt (seconds : Nat) (timestamp : UInt64) :
    intervalAt seconds timestamp * seconds * nanosPerSecond < 2 ^ 64 := by
  have hseconds := Nat.div_mul_le_self (timestamp.toNat / nanosPerSecond) seconds
  have hnanos := Nat.div_mul_le_self timestamp.toNat nanosPerSecond
  exact ((Nat.mul_le_mul_right _ hseconds).trans hnanos).trans_lt timestamp.toNat_lt

namespace ExpiringFilter

variable {R : Type}

theorem interval_toNat (f : ExpiringFilter R) (timestamp : UInt64) :
    f.interval timestamp.toNat = intervalAt f.intervalSeconds timestamp := rfl

def handle [WordSource R] (f : ExpiringFilter R) :
    Request Key UInt64 → ExpiringFilter R × Answer AddOutcome (Option Position)
  | .add key timestamp =>
    let added := f.add key timestamp.toNat
    (added.state, .added added.answer)
  | .query key => (f, .found (f.query key))
  | .delete key =>
    let (f, removed) := f.delete key
    (f, .deleted removed)
  | .clear => (f.clear.state, .cleared)

def execute [WordSource R] (f : ExpiringFilter R) : Command UInt64 → ExpiringFilter R
  | .request request => (f.handle request).1
  | .restore claimed image version => (f.restore claimed image version).state
  | .restoreSnapshot snapshot => (f.restoreSnapshot snapshot).state

/-! ## Operations as functions of the state -/

/-- The table as `advance` prunes it, and how many entries that takes out. -/
def pruneElapsed (f : ExpiringFilter R) (elapsed : Nat) (position : Position) : Table 32 8 R × Nat :=
  if f.count = 0 then (f.table, 0)
  else if ringSize ≤ elapsed then f.table.prune fun _ => true
  else f.table.prune (inRingRange (oldestPosition f.ring.current) position)

theorem state_advance (f : ExpiringFilter R) (time : Nat) (position : Position) :
    (f.advance time position).state =
      let pruned := f.pruneElapsed ((time - f.ring.time) / f.intervalSeconds) position
      let ring := { f.ring with current := position, time }
      ⟨f.config, pruned.1, f.count - pruned.2, { ring with lru := oldestLive ring pruned.1 }⟩ := rfl

theorem state_sweep (f : ExpiringFilter R) :
    f.sweep.state = match sweepPosition f.ring f.table with
      | none => { f with ring := { f.ring with lru := none } }
      | some position =>
        let pruned := f.table.prune (· == position)
        ⟨f.config, pruned.1, f.count - pruned.2,
          { f.ring with lru := oldestLive f.ring pruned.1 }⟩ := by
  rw [sweep]
  cases sweepPosition f.ring f.table <;> rfl

theorem state_age (f : ExpiringFilter R) (time : Nat) (position : Position) :
    (f.age time position).state =
      let advanced := if f.ring.time < time then (f.advance time position).state else f
      if advanced.overloaded then advanced.sweep.state else advanced := by
  rw [age]
  by_cases hlater : f.ring.time < time
  · simp only [if_pos hlater]
    split <;> rfl
  · simp only [if_neg hlater]
    split <;> rfl

/-- Aging keeps what moving on and sweeping keep. -/
theorem age_keeps {P : ExpiringFilter R → Prop} {f : ExpiringFilter R} {time : Nat}
    {position : Position} (h : P f) (hadvance : P (f.advance time position).state)
    (hsweep : ∀ {g : ExpiringFilter R}, P g → P g.sweep.state) : P (f.age time position).state := by
  rw [state_age]
  dsimp only
  split_ifs
  · exact hsweep hadvance
  · exact hadvance
  · exact hsweep h
  · exact h

theorem delete_eq (f : ExpiringFilter R) (key : Key) :
    f.delete key = match f.table.find (f.table.locate key.encoding) with
      | some (i, j) => ({ f with table := f.table.setSlot i j .empty, count := f.count - 1 }, true)
      | none => (f, false) := by
  rw [delete, Table.remove_eq]
  cases f.table.find (f.table.locate key.encoding) <;> rfl

theorem store_eq [WordSource R] (f : ExpiringFilter R) (key : Key) (position : Position) :
    f.store key position = match f.table.find (f.table.locate key.encoding) with
      | some (i, j) =>
        let stored := (f.table.slot i j).tag
        let outcome := AddOutcome.duplicate (f.ring.distance position stored)
        if f.ring.isNewer position stored then
          { state := { f with table := f.table.setTag i j position }, answer := .ok outcome }
        else { state := f, answer := .ok outcome }
      | none =>
        let placed := f.table.place (f.table.locate key.encoding) position fun existing incoming =>
          if f.ring.isNewer incoming existing then incoming else existing
        match placed.answer with
        | .error full => ⟨{ f with table := placed.state }, .error full, placed.events⟩
        | .ok placement =>
          ⟨{ f with
              table := placed.state
              count := if placement.addsEntry then f.count + 1 else f.count }, .ok .added,
            placed.events⟩ := rfl

theorem add_of_expired [WordSource R] (f : ExpiringFilter R) (key : Key) (timestamp : Nat)
    (h : f.interval timestamp * f.intervalSeconds < f.ring.windowStart f.intervalSeconds) :
    f.add key timestamp = { state := f, answer := .ok .expired } :=
  if_pos h

theorem add_of_kept [WordSource R] (f : ExpiringFilter R) (key : Key) (timestamp : Nat)
    (h : ¬ f.interval timestamp * f.intervalSeconds < f.ring.windowStart f.intervalSeconds) :
    let n := f.interval timestamp
    let stored := (f.age (n * f.intervalSeconds) (position n)).state.store key (position n)
    (f.add key timestamp).answer = stored.answer ∧ (f.add key timestamp).state = stored.state := by
  rw [add]
  simp only [if_neg h]
  exact ⟨rfl, rfl⟩

/-- A key that is not too old is stored once the filter has aged. -/
theorem add_of_ne_expired [WordSource R] (f : ExpiringFilter R) (key : Key) (timestamp : Nat)
    (h : (f.add key timestamp).answer ≠ .ok .expired) :
    let n := f.interval timestamp
    let stored := (f.age (n * f.intervalSeconds) (position n)).state.store key (position n)
    (f.add key timestamp).answer = stored.answer ∧ (f.add key timestamp).state = stored.state :=
  add_of_kept f key timestamp fun hold => h (by rw [add_of_expired f key timestamp hold])

theorem answer_restore (f : ExpiringFilter R) (claimed : Nat) (image : Bytes) (version : Option Nat) :
    (f.restore claimed image version).answer = (f.table.restore image version).answer := by
  rw [restore]
  dsimp only
  cases (f.table.restore image version).answer <;> rfl

theorem state_restore (f : ExpiringFilter R) (claimed : Nat) (image : Bytes)
    (version : Option Nat) :
    (f.restore claimed image version).state =
      match (f.table.restore image version).answer with
      | .restored =>
        { f with
          table := (f.table.restore image version).state
          count := (f.table.restore image version).state.occupied
          ring := { f.ring with lru := none } }
      | _ => f := by
  rw [restore]
  dsimp only
  cases (f.table.restore image version).answer <;> rfl

theorem answer_restoreSnapshot (f : ExpiringFilter R) (s : Snapshot) :
    (f.restoreSnapshot s).answer =
      match f.checkSnapshot s with
      | .error mismatch => .error mismatch
      | .ok () => .ok (f.restore s.count s.data (some s.version)).answer := by
  rw [restoreSnapshot]
  cases f.checkSnapshot s with
  | error mismatch => rfl
  | ok _ =>
    dsimp only
    generalize f.restore s.count s.data (some s.version) = restored
    obtain ⟨g, status, events⟩ := restored
    cases status <;> rfl

/-- A snapshot that fits is restored as its image is, and may bring its ring. -/
theorem state_restoreSnapshot (f : ExpiringFilter R) (s : Snapshot) :
    (f.restoreSnapshot s).state =
      match f.checkSnapshot s with
      | .error _ => f
      | .ok () =>
        let restored := f.restore s.count s.data (some s.version)
        match restored.answer with
        | .restored => { restored.state with ring := s.ring.getD restored.state.ring }
        | _ => restored.state := by
  rw [restoreSnapshot]
  cases f.checkSnapshot s with
  | error mismatch => rfl
  | ok _ =>
    dsimp only
    generalize f.restore s.count s.data (some s.version) = restored
    obtain ⟨g, status, events⟩ := restored
    cases status <;> rfl

/-! ## The number of entries -/

section Counted

variable {l : Layout} {f : ExpiringFilter R}

theorem exists_create {config : ExpiringConfig} (hv : config.validate = .ok ()) (words : R) :
    ∃ f, create config words = .ok f :=
  ⟨_, by rw [create, hv]⟩

theorem counted_create {config : ExpiringConfig} {words : R} (h : create config words = .ok f) :
    f.table.Counted config.layout f.count := by
  unfold create at h
  split at h
  · cases h
  · rename_i hv
    obtain rfl := Except.ok.inj h
    exact .ofSize (isTableSize_bucketCount (ExpiringConfig.validate_eq_ok.1 hv).1) _ _

theorem counted_pruneElapsed (h : f.table.Counted l f.count) (elapsed : Nat)
    (position : Position) :
    (f.pruneElapsed elapsed position).1.Counted l
      (f.count - (f.pruneElapsed elapsed position).2) := by
  unfold pruneElapsed
  split
  · exact h
  · split
    · exact h.prune _
    · exact h.prune _

theorem counted_advance (h : f.table.Counted l f.count) (time : Nat) (position : Position) :
    (f.advance time position).state.table.Counted l (f.advance time position).state.count := by
  rw [state_advance]
  exact counted_pruneElapsed h _ _

theorem counted_sweep (h : f.table.Counted l f.count) :
    f.sweep.state.table.Counted l f.sweep.state.count := by
  rw [state_sweep]
  split
  · exact h
  · exact h.prune _

theorem counted_age (h : f.table.Counted l f.count) (time : Nat) (position : Position) :
    (f.age time position).state.table.Counted l (f.age time position).state.count :=
  age_keeps (P := fun g => g.table.Counted l g.count) h (counted_advance h time position) counted_sweep

theorem counted_store [WordSource R] (h : f.table.Counted l f.count) (key : Key)
    (position : Position) : (f.store key position).state.table.Counted l
      (f.store key position).state.count := by
  have hc := h.fits_locate (by decide) key.encoding
  rw [store_eq]
  split
  · rename_i hfind
    dsimp only
    split
    · exact h.setTag (Table.holds_of_find h.isTableSize hc hfind) _
    · exact h
  · dsimp only
    split
    · rename_i hfull
      exact h.place_of_full hc hfull
    · rename_i hok
      exact h.place_of_ok hc hok

theorem counted_add [WordSource R] (h : f.table.Counted l f.count) (key : Key) (timestamp : Nat) :
    (f.add key timestamp).state.table.Counted l (f.add key timestamp).state.count := by
  by_cases hold : f.interval timestamp * f.intervalSeconds < f.ring.windowStart f.intervalSeconds
  · rw [add_of_expired f key timestamp hold]
    exact h
  · rw [(add_of_kept f key timestamp hold).2]
    exact counted_store (counted_age h _ _) _ _

theorem counted_delete (h : f.table.Counted l f.count) (key : Key) :
    (f.delete key).1.table.Counted l (f.delete key).1.count := by
  have hc := h.fits_locate (by decide) key.encoding
  rw [delete_eq]
  split
  · rename_i hfind
    exact h.erase (Table.holds_of_find h.isTableSize hc hfind)
  · exact h

theorem counted_restore (h : f.table.Counted l f.count) (claimed : Nat) (image : Bytes)
    (version : Option Nat) : (f.restore claimed image version).state.table.Counted l
      (f.restore claimed image version).state.count := by
  rw [state_restore]
  split
  · rename_i hr
    exact h.restore hr
  · exact h

theorem counted_restoreSnapshot (h : f.table.Counted l f.count) (s : Snapshot) :
    (f.restoreSnapshot s).state.table.Counted l (f.restoreSnapshot s).state.count := by
  rw [state_restoreSnapshot]
  split
  · exact h
  · dsimp only
    split
    · exact counted_restore h _ _ _
    · exact counted_restore h _ _ _

theorem counted_execute [WordSource R] (h : f.table.Counted l f.count)
    (command : Command UInt64) : (f.execute command).table.Counted l (f.execute command).count := by
  cases command with
  | request request =>
    cases request with
    | add key timestamp => exact counted_add h key _
    | query key => exact h
    | delete key => exact counted_delete h key
    | clear => exact h.clear
  | restore claimed image version => exact counted_restore h claimed image version
  | restoreSnapshot snapshot => exact counted_restoreSnapshot h snapshot

theorem counted_run [WordSource R] (h : f.table.Counted l f.count)
    (commands : List (Command UInt64)) : (commands.foldl execute f).table.Counted l
      (commands.foldl execute f).count := by
  induction commands generalizing f with
  | nil => exact h
  | cons command commands ih => exact ih (counted_execute h command)

end Counted

end ExpiringFilter

end CuckooFilter
