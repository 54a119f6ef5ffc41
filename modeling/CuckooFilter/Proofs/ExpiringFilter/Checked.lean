import CuckooFilter.Proofs.ExpiringFilter.Alignment
import CuckooFilter.Proofs.Table.Checked

/-!
# An expiring filter that checks each step

Every command does to a filter that checks each step what it does to one that does not
(`ExpiringFilter.execute?_eq`), and so does every sequence of them (`ExpiringFilter.run?_eq`). Beside
the number of entries that takes an aligned ring and intervals of at most a day.
-/

namespace CuckooFilter

namespace Ring

def start? (intervalSeconds : Nat) : Option Ring := do
  let time ← word? (255 * intervalSeconds)
  pure { current := 255, time, lru := none }

/-- The start of the oldest interval still kept, zero if that would be negative. -/
def windowStart? (r : Ring) (intervalSeconds : Nat) : Option Nat := do
  let length ← word? (intervalSeconds * (ringSize - 1))
  pure (r.time - length)

theorem start?_eq {seconds : Nat} (h : seconds ≤ 86400) : start? seconds = some (start seconds) := by
  have hlt : 255 * seconds < 2 ^ 64 := by omega
  rw [start?, word?, check_eq hlt]
  rfl

theorem windowStart?_eq {seconds : Nat} (h : seconds ≤ 86400) (r : Ring) :
    r.windowStart? seconds = some (r.windowStart seconds) := by
  have hlt : seconds * (ringSize - 1) < 2 ^ 64 := show seconds * 255 < 2 ^ 64 by omega
  rw [windowStart?, word?, check_eq hlt]
  rfl

end Ring

namespace ExpiringFilter

variable {R : Type}

/-! ## Operations -/

def create? (config : ExpiringConfig) (words : R) :
    Option (Except ConfigFault (ExpiringFilter R)) :=
  match config.validate with
  | .error fault => pure (.error fault)
  | .ok () => do
    let ring ← Ring.start? config.intervalSeconds
    let table ← Table.ofSize? (bucketCount config.capacity) config.hash words
    pure (.ok { config, table, count := 0, ring })

def advance? (f : ExpiringFilter R) (time : Nat) (position : Position) :
    Option (Step (ExpiringFilter R) Unit) := do
  let passed ← sub? time f.ring.time
  let elapsed ← div? passed f.intervalSeconds
  let (table, pruned) := f.pruneElapsed elapsed position
  let count ← sub? f.count pruned
  let ring := { f.ring with current := position, time }
  pure
    { state := { f with table, count, ring := { ring with lru := oldestLive ring table } }
      answer := ()
      events := [.advanced position.toNat elapsed pruned count] }

def sweep? (f : ExpiringFilter R) : Option (Step (ExpiringFilter R) Unit) :=
  match sweepPosition f.ring f.table with
  | none => pure { state := { f with ring := { f.ring with lru := none } }, answer := () }
  | some position => do
    let (table, pruned) := f.table.prune (· == position)
    let count ← sub? f.count pruned
    pure
      { state := { f with table, count, ring := { f.ring with lru := oldestLive f.ring table } }
        answer := ()
        events := [.swept position.toNat pruned count] }

def overloaded? (f : ExpiringFilter R) : Option Bool := do
  let slots ← f.table.capacity?
  pure (decide (4 * slots ≤ 5 * f.count))

def age? (f : ExpiringFilter R) (time : Nat) (position : Position) :
    Option (Step (ExpiringFilter R) Unit) := do
  let advanced ←
    if f.ring.time < time then f.advance? time position else pure { state := f, answer := () }
  if ← advanced.state.overloaded? then
    let swept ← advanced.state.sweep?
    pure ⟨swept.state, (), advanced.events ++ swept.events⟩
  else pure advanced

def store? [WordSource R] (f : ExpiringFilter R) (key : Key) (position : Position) :
    Option (Step (ExpiringFilter R) (Except Full AddOutcome)) := do
  let candidates ← f.table.locate? key.encoding
  match ← f.table.find? candidates with
  | some (bucket, i) =>
    let held ← f.table.slot? bucket i
    let stored := held.tag
    let outcome := AddOutcome.duplicate (f.ring.distance position stored)
    if f.ring.isNewer position stored then
      pure { state := { f with table := f.table.setTag bucket i position }, answer := .ok outcome }
    else pure { state := f, answer := .ok outcome }
  | none =>
    let placed ← f.table.place? candidates position fun existing incoming =>
      if f.ring.isNewer incoming existing then incoming else existing
    match placed.answer with
    | .error full => pure ⟨{ f with table := placed.state }, .error full, placed.events⟩
    | .ok placement =>
      let count ← word? (if placement.addsEntry then f.count + 1 else f.count)
      pure ⟨{ f with table := placed.state, count }, .ok .added, placed.events⟩

def add? [WordSource R] (f : ExpiringFilter R) (key : Key) (timestamp : Nat) :
    Option (Step (ExpiringFilter R) (Except Full AddOutcome)) := do
  let interval ← div? (timestamp / nanosPerSecond) f.intervalSeconds
  let time ← word? (interval * f.intervalSeconds)
  let start ← f.ring.windowStart? f.intervalSeconds
  if time < start then pure { state := f, answer := .ok .expired }
  else
    let position : Position := BitVec.ofNat 8 interval
    let aged ← f.age? time position
    let stored ← aged.state.store? key position
    pure ⟨stored.state, stored.answer, aged.events ++ stored.events⟩

def query? (f : ExpiringFilter R) (key : Key) : Option (Option Position) := do
  let candidates ← f.table.locate? key.encoding
  match ← f.table.find? candidates with
  | some (bucket, i) =>
    let held ← f.table.slot? bucket i
    pure (some held.tag)
  | none => pure none

def delete? (f : ExpiringFilter R) (key : Key) : Option (ExpiringFilter R × Bool) := do
  let candidates ← f.table.locate? key.encoding
  let (table, removed) ← f.table.remove? candidates
  let count ← Table.countDown? f.count removed
  pure ({ f with table, count }, removed)

/-- The start of the current interval in nanoseconds, which has to fit in a word, and its position. -/
def currentInterval? (f : ExpiringFilter R) : Option (Nat × Position) := do
  let start ← word? (f.ring.time * nanosPerSecond)
  pure (start, f.ring.current)

def clear? (f : ExpiringFilter R) : Option (Step (ExpiringFilter R) Unit) := do
  let ring ← Ring.start? f.intervalSeconds
  let slots ← f.table.capacity?
  pure
    { state := { f with table := f.table.clear, count := 0, ring }
      answer := ()
      events := [.expiringCleared slots] }

def handle? [WordSource R] (f : ExpiringFilter R) :
    Request Key UInt64 → Option (ExpiringFilter R × Answer AddOutcome (Option Position))
  | .add key timestamp => do
    let added ← f.add? key timestamp.toNat
    pure (added.state, .added added.answer)
  | .query key => do
    let found ← f.query? key
    pure (f, .found found)
  | .delete key => do
    let (f, removed) ← f.delete? key
    pure (f, .deleted removed)
  | .clear => do
    let cleared ← f.clear?
    pure (cleared.state, .cleared)

def restore? (f : ExpiringFilter R) (claimed : Nat) (bytes : Bytes) (version : Option Nat) :
    Option (Step (ExpiringFilter R) RestoreStatus) := do
  let restored ← f.table.restore? bytes version
  match restored.answer with
  | .restored =>
    let count ← restored.state.occupied?
    pure
      { state := { f with table := restored.state, count, ring := { f.ring with lru := none } }
        answer := .restored
        events := restored.events ++ if count = claimed then [] else [.recounted claimed count] }
  | status => pure { state := f, answer := status, events := restored.events }

/-- Whether a snapshot can be restored, where a ring is compared with its time divided by the length of
an interval. -/
def checkSnapshot? (f : ExpiringFilter R) (s : Snapshot) : Option (Except Mismatch Unit) := do
  let _ ← f.table.capacity?
  check (0 < f.intervalSeconds) (f.checkSnapshot s)

def restoreSnapshot? (f : ExpiringFilter R) (s : Snapshot) :
    Option (Step (ExpiringFilter R) (Except Mismatch RestoreStatus)) := do
  match ← f.checkSnapshot? s with
  | .error mismatch => pure { state := f, answer := .error mismatch }
  | .ok () =>
    match ← f.restore? s.count s.data (some s.version) with
    | ⟨f, .restored, events⟩ =>
      pure ⟨{ f with ring := s.ring.getD f.ring }, .ok .restored, events⟩
    | ⟨f, status, events⟩ => pure ⟨f, .ok status, events⟩

def execute? [WordSource R] (f : ExpiringFilter R) : Command UInt64 → Option (ExpiringFilter R)
  | .request request => do
    let (f, _) ← f.handle? request
    pure f
  | .restore claimed image version => do
    let restored ← f.restore? claimed image version
    pure restored.state
  | .restoreSnapshot snapshot => do
    let restored ← f.restoreSnapshot? snapshot
    pure restored.state

/-! ## None of the checks fails -/

section Checks

variable {l : Layout} {f : ExpiringFilter R}

theorem pruneElapsed_le (h : f.table.Counted l f.count) (elapsed : Nat) (position : Position) :
    (f.pruneElapsed elapsed position).2 ≤ f.count := by
  unfold pruneElapsed
  split
  · exact Nat.zero_le _
  · split
    · exact h.pruned_le _
    · exact h.pruned_le _

/-- A filter only moves on to times that are not before its own. -/
theorem advance?_eq (h : f.table.Counted l f.count) (hpos : 0 < f.intervalSeconds) {time : Nat}
    (htime : f.ring.time ≤ time) (position : Position) :
    f.advance? time position = some (f.advance time position) := by
  simp only [advance?, sub?, div?, check_eq htime, check_eq hpos,
    check_eq (pruneElapsed_le h _ position), Option.bind_eq_bind, Option.bind_some]
  rfl

theorem sweep?_eq (h : f.table.Counted l f.count) : f.sweep? = some f.sweep := by
  rw [sweep?, sweep]
  cases sweepPosition f.ring f.table with
  | none => rfl
  | some position =>
    simp only [sub?, check_eq (h.pruned_le _), Option.bind_eq_bind, Option.bind_some]
    rfl

theorem overloaded?_eq (h : f.table.Counted l f.count) (hl : l.buckets ≤ 2 ^ 31) :
    f.overloaded? = some f.overloaded := by
  rw [overloaded?, Table.capacity?_eq (h.size_eq ▸ hl)]
  rfl

theorem age?_eq (h : f.table.Counted l f.count) (hl : l.buckets ≤ 2 ^ 31)
    (hpos : 0 < f.intervalSeconds) (time : Nat) (position : Position) :
    f.age? time position = some (f.age time position) := by
  unfold age? age
  by_cases hlater : f.ring.time < time
  · have hcounted := counted_advance h time position
    simp only [if_pos hlater, advance?_eq h hpos hlater.le, overloaded?_eq hcounted hl,
      sweep?_eq hcounted, Option.bind_eq_bind, Option.bind_some]
    cases (f.advance time position).state.overloaded <;> rfl
  · simp only [if_neg hlater, overloaded?_eq h hl, sweep?_eq h, Option.bind_eq_bind,
      Option.bind_some, Option.pure_def]
    cases f.overloaded <;> rfl

theorem store?_eq [WordSource R] (h : f.table.Counted l f.count) (hl : l.buckets ≤ 2 ^ 31)
    (key : Key) (position : Position) :
    f.store? key position = some (f.store key position) := by
  have hc := h.fits_locate (by decide) key.encoding
  simp only [store?, store_eq, Table.locate?_eq h.isTableSize, Table.find?_eq h.isTableSize hc,
    Table.place?_eq h.isTableSize hc, Option.bind_eq_bind, Option.bind_some]
  cases hfind : f.table.find (f.table.locate key.encoding) with
  | some place =>
    obtain ⟨i, j⟩ := place
    have hold := Table.holds_of_find h.isTableSize hc hfind
    simp only [Table.slot?, check_eq hold.lt, Option.bind_some]
    cases f.ring.isNewer position (f.table.slot i j).tag <;> rfl
  | none =>
    cases hanswer : (f.table.place (f.table.locate key.encoding) position fun existing incoming =>
        if f.ring.isNewer incoming existing then incoming else existing).answer with
    | error full => rfl
    | ok placement =>
      have hplaced := h.place_of_ok hc hanswer
      simp only [hplaced.word?_eq hl, Option.bind_some]
      rfl

theorem query?_eq (h : f.table.Counted l f.count) (key : Key) :
    f.query? key = some (f.query key) := by
  have hc := h.fits_locate (by decide) key.encoding
  simp only [query?, query, Table.locate?_eq h.isTableSize, Table.find?_eq h.isTableSize hc,
    Option.bind_eq_bind, Option.bind_some]
  cases hfind : f.table.find (f.table.locate key.encoding) with
  | some place =>
    have hold := Table.holds_of_find h.isTableSize hc hfind
    simp only [Table.slot?, check_eq hold.lt, Option.bind_some]
    rfl
  | none => rfl

theorem delete?_eq (h : f.table.Counted l f.count) (key : Key) :
    f.delete? key = some (f.delete key) := by
  have hc := h.fits_locate (by decide) key.encoding
  simp only [delete?, delete, Table.locate?_eq h.isTableSize, Table.remove?_eq h.isTableSize hc,
    h.countDown?_eq hc, Option.bind_eq_bind, Option.bind_some]
  rfl

theorem restore?_eq (h : f.table.Counted l f.count) (hl : l.buckets ≤ 2 ^ 31) (claimed : Nat)
    (image : Bytes) (version : Option Nat) :
    f.restore? claimed image version = some (f.restore claimed image version) := by
  have hsize : f.table.size ≤ 2 ^ 31 := h.size_eq ▸ hl
  rw [restore?, restore, Table.restore?_eq hsize (by decide)]
  simp only [Table.occupied?_restore hsize, Option.bind_eq_bind, Option.bind_some]
  cases (f.table.restore image version).answer <;> rfl

theorem restoreSnapshot?_eq (h : f.table.Counted l f.count) (hl : l.buckets ≤ 2 ^ 31)
    (hpos : 0 < f.intervalSeconds) (s : Snapshot) :
    f.restoreSnapshot? s = some (f.restoreSnapshot s) := by
  simp only [restoreSnapshot?, restoreSnapshot, checkSnapshot?, check_eq hpos,
    Table.capacity?_eq (h.size_eq ▸ hl), restore?_eq h hl, Option.bind_eq_bind, Option.bind_some]
  cases f.checkSnapshot s with
  | error mismatch => rfl
  | ok _ =>
    dsimp only
    generalize f.restore s.count s.data (some s.version) = restored
    obtain ⟨g, status, events⟩ := restored
    cases status <;> rfl

end Checks

section Runs

variable {config : ExpiringConfig} {f : ExpiringFilter R}

theorem create?_eq (config : ExpiringConfig) (words : R) :
    create? config words = some (create config words) := by
  unfold create? create
  cases hv : config.validate with
  | error fault => rfl
  | ok _ =>
    have hcapacity := (ExpiringConfig.validate_eq_ok.1 hv).1
    dsimp only
    rw [Ring.start?_eq (ExpiringConfig.intervalSeconds_bounds hv).2,
      Table.ofSize?_eq (isTableSize_bucketCount hcapacity)]
    rfl

/-- The current interval starts at a time that fits in a word. -/
theorem Aligned.currentInterval?_eq (ha : f.Aligned config) :
    f.currentInterval? = some f.currentInterval := by
  obtain ⟨-, -, htime⟩ := ringFits_iff.1 ha.ring_fits
  have hmin : min (f.ring.time * nanosPerSecond) (UInt64.size - 1) = f.ring.time * nanosPerSecond :=
    Nat.min_eq_left (Nat.le_sub_one_of_lt htime)
  rw [currentInterval?, word?, check_eq htime, currentInterval, hmin]
  rfl

theorem add?_eq [WordSource R] (h : f.table.Counted config.layout f.count) (ha : f.Aligned config)
    (hv : config.validate = .ok ()) (key : Key) (timestamp : UInt64) :
    f.add? key timestamp.toNat = some (f.add key timestamp.toNat) := by
  obtain ⟨hpos, hmax⟩ := ExpiringConfig.intervalSeconds_bounds hv
  rw [← ha.seconds_eq] at hpos hmax
  have hl := bucketCount_le (ExpiringConfig.validate_eq_ok.1 hv).1
  have htime : f.interval timestamp.toNat * f.intervalSeconds < 2 ^ 64 :=
    (Nat.le_mul_of_pos_right _ (by decide)).trans_lt (intervalAt_lt f.intervalSeconds timestamp)
  have hinterval : div? (timestamp.toNat / nanosPerSecond) f.intervalSeconds =
      some (f.interval timestamp.toNat) := check_eq hpos _
  simp only [add?, add, hinterval, word?, check_eq htime, Ring.windowStart?_eq hmax,
    Option.bind_eq_bind, Option.bind_some]
  generalize f.interval timestamp.toNat = n
  by_cases hold : n * f.intervalSeconds < f.ring.windowStart f.intervalSeconds
  · simp only [if_pos hold]
    rfl
  · have haged := counted_age h (n * f.intervalSeconds) (position n)
    simp only [position] at haged
    simp only [if_neg hold, age?_eq h hl hpos, store?_eq haged hl, Option.bind_some]
    rfl

theorem clear?_eq (h : f.table.Counted config.layout f.count) (ha : f.Aligned config)
    (hv : config.validate = .ok ()) : f.clear? = some f.clear := by
  obtain ⟨-, hmax⟩ := ExpiringConfig.intervalSeconds_bounds hv
  rw [← ha.seconds_eq] at hmax
  have hl := bucketCount_le (ExpiringConfig.validate_eq_ok.1 hv).1
  rw [clear?, Ring.start?_eq hmax, Table.capacity?_eq (h.size_eq ▸ hl)]
  rfl

theorem handle?_eq [WordSource R] (h : f.table.Counted config.layout f.count)
    (ha : f.Aligned config) (hv : config.validate = .ok ()) (request : Request Key UInt64) :
    f.handle? request = some (f.handle request) := by
  cases request with
  | add key timestamp => rw [handle?, add?_eq h ha hv]; rfl
  | query key => rw [handle?, query?_eq h]; rfl
  | delete key => rw [handle?, delete?_eq h]; rfl
  | clear => rw [handle?, clear?_eq h ha hv]; rfl

theorem execute?_eq [WordSource R] (h : f.table.Counted config.layout f.count)
    (ha : f.Aligned config) (hv : config.validate = .ok ()) (command : Command UInt64) :
    f.execute? command = some (f.execute command) := by
  have hl := bucketCount_le (ExpiringConfig.validate_eq_ok.1 hv).1
  cases command with
  | request request => rw [execute?, handle?_eq h ha hv]; rfl
  | restore claimed image version => rw [execute?, restore?_eq h hl]; rfl
  | restoreSnapshot snapshot =>
    have hpos := (ExpiringConfig.intervalSeconds_bounds hv).1
    rw [execute?, restoreSnapshot?_eq h hl (ha.seconds_eq ▸ hpos)]
    rfl

/-- By induction on the commands: the count stays exact and the ring aligned, so none of the next
checks fails. -/
theorem run?_eq [WordSource R] (h : f.table.Counted config.layout f.count) (ha : f.Aligned config)
    (hv : config.validate = .ok ()) (commands : List (Command UInt64)) :
    commands.foldlM execute? f = some (commands.foldl execute f) := by
  induction commands generalizing f with
  | nil => rfl
  | cons command commands ih =>
    rw [List.foldlM_cons, execute?_eq h ha hv]
    exact ih (counted_execute h command) (aligned_execute ha hv command)

end Runs

end ExpiringFilter

end CuckooFilter
