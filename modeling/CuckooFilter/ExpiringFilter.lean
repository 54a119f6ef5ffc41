import CuckooFilter.Key
import CuckooFilter.Snapshot
import CuckooFilter.Text.ByteSize

/-!
# The expiring filter

A filter that remembers when a key was last seen, to the interval, and forgets it 255 intervals
later. Keys have 32-bit fingerprints and are tagged with the position of their interval in the ring.
A timestamp in a later interval moves the ring forward (`advance`), and a filter that is four fifths
full forgets its oldest interval before it takes another key (`sweep`).
-/

namespace CuckooFilter

def nanosPerSecond : Nat := 1000000000

/-- What became of a key that was added. -/
inductive AddOutcome
  | added
  /-- The key was present; it was last seen `delta` intervals away. -/
  | duplicate (delta : Nat)
  /-- The timestamp lies before the oldest interval kept. -/
  | expired
  deriving DecidableEq

namespace AddOutcome

def isAdded : AddOutcome → Bool
  | .added => true
  | .duplicate _ | .expired => false

def text : AddOutcome → String
  | .added => "Added"
  | .duplicate delta => Text.record "Duplicate" [("delta", toString delta)]
  | .expired => "Expired"

end AddOutcome

structure ExpiringFilter (R : Type) where
  config : ExpiringConfig
  table : Table 32 8 R
  /-- The number of entries. -/
  count : Nat
  ring : Ring

namespace ExpiringFilter

variable {R : Type}

/-- An empty filter whose random choices are drawn from `words`. -/
def create (config : ExpiringConfig) (words : R) : Except ConfigFault (ExpiringFilter R) :=
  match config.validate with
  | .error fault => .error fault
  | .ok () =>
    .ok { config
          table := .ofSize (bucketCount config.capacity) config.hash words
          count := 0
          ring := .start config.intervalSeconds }

/-- The number of slots. -/
def capacity (f : ExpiringFilter R) : Nat :=
  f.table.capacity

def intervalSeconds (f : ExpiringFilter R) : Nat :=
  f.config.intervalSeconds

/-! ## Aging -/

/-- The position of the oldest interval that has entries. -/
def oldestLive (ring : Ring) (table : Table 32 8 R) : Option Position :=
  ((table.liveTags.map ring.recency).min?).map ring.ofRecency

/-- Moves the ring to the interval that starts at `time`, and forgets every interval that is no
longer kept. -/
def advance (f : ExpiringFilter R) (time : Nat) (position : Position) : Step (ExpiringFilter R) Unit :=
  match f with
  | ⟨config, table, count, ring⟩ =>
    let elapsed := (time - ring.time) / config.intervalSeconds
    let (table, pruned) :=
      if count = 0 then (table, 0)
      else if ringSize ≤ elapsed then table.prune fun _ => true
      else table.prune (inRingRange (oldestPosition ring.current) position)
    let count := count - pruned
    let ring := { ring with current := position, time }
    let ring := { ring with lru := oldestLive ring table }
    { state := ⟨config, table, count, ring⟩
      answer := ()
      events := [.advanced position.toNat elapsed pruned count] }

/-- The interval that a capacity sweep empties: the one under the cursor if it has entries, else the
oldest one that has. -/
def sweepPosition (ring : Ring) (table : Table 32 8 R) : Option Position :=
  match ring.lru with
  | some lru => if table.liveTags.contains lru then some lru else oldestLive ring table
  | none => oldestLive ring table

/-- Empties one interval and moves the cursor to the oldest interval that has entries. -/
def sweep (f : ExpiringFilter R) : Step (ExpiringFilter R) Unit :=
  match sweepPosition f.ring f.table with
  | none => { state := { f with ring := { f.ring with lru := none } }, answer := () }
  | some position =>
    match f with
    | ⟨config, table, count, ring⟩ =>
      let (table, pruned) := table.prune (· == position)
      let count := count - pruned
      let ring := { ring with lru := oldestLive ring table }
      { state := ⟨config, table, count, ring⟩
        answer := ()
        events := [.swept position.toNat pruned count] }

/-- Whether four fifths of the slots are taken. -/
def overloaded (f : ExpiringFilter R) : Bool :=
  decide (4 * f.capacity ≤ 5 * f.count)

/-- What a timestamp in the interval that starts at `time` does to a filter before its key is looked
up. -/
def age (f : ExpiringFilter R) (time : Nat) (position : Position) : Step (ExpiringFilter R) Unit :=
  let advanced := if f.ring.time < time then f.advance time position else { state := f, answer := () }
  match advanced with
  | ⟨f, (), events⟩ =>
    if f.overloaded then
      match f.sweep with
      | ⟨f, (), more⟩ => ⟨f, (), events ++ more⟩
    else ⟨f, (), events⟩

/-! ## Keys -/

/-- Stores a key seen in the interval at `position`, or notes when it was last seen. -/
def store [WordSource R] (f : ExpiringFilter R) (key : Key) (position : Position) :
    Step (ExpiringFilter R) (Except Full AddOutcome) :=
  let candidates := f.table.locate key.encoding
  match f.table.find candidates with
  | some (bucket, i) =>
    let stored := (f.table.slot bucket i).tag
    let outcome := AddOutcome.duplicate (f.ring.distance position stored)
    if f.ring.isNewer position stored then
      match f with
      | ⟨config, table, count, ring⟩ =>
        { state := ⟨config, table.setTag bucket i position, count, ring⟩, answer := .ok outcome }
    else { state := f, answer := .ok outcome }
  | none =>
    match f with
    | ⟨config, table, count, ring⟩ =>
      let placed := table.place candidates position fun existing incoming =>
        if ring.isNewer incoming existing then incoming else existing
      match placed.answer with
      | .error full => ⟨⟨config, placed.state, count, ring⟩, .error full, placed.events⟩
      | .ok placement =>
        let count := if placement.addsEntry then count + 1 else count
        ⟨⟨config, placed.state, count, ring⟩, .ok .added, placed.events⟩

/-- The number of the interval that a timestamp in nanoseconds lies in. -/
def interval (f : ExpiringFilter R) (timestamp : Nat) : Nat :=
  timestamp / nanosPerSecond / f.intervalSeconds

/-- Adds a key seen at a timestamp in nanoseconds. -/
def add [WordSource R] (f : ExpiringFilter R) (key : Key) (timestamp : Nat) :
    Step (ExpiringFilter R) (Except Full AddOutcome) :=
  let interval := f.interval timestamp
  let time := interval * f.intervalSeconds
  if time < f.ring.windowStart f.intervalSeconds then { state := f, answer := .ok .expired }
  else
    let position : Position := BitVec.ofNat 8 interval
    match f.age time position with
    | ⟨f, (), events⟩ =>
      match f.store key position with
      | ⟨f, outcome, more⟩ => ⟨f, outcome, events ++ more⟩

/-- The position of the interval that a key was last seen in, if it counts as present. -/
def query (f : ExpiringFilter R) (key : Key) : Option Position :=
  (f.table.find (f.table.locate key.encoding)).map fun (bucket, i) => (f.table.slot bucket i).tag

def contains (f : ExpiringFilter R) (key : Key) : Bool :=
  (f.query key).isSome

/-- Deletes a key; says whether it counted as present. -/
def delete (f : ExpiringFilter R) (key : Key) : ExpiringFilter R × Bool :=
  let candidates := f.table.locate key.encoding
  match f with
  | ⟨config, table, count, ring⟩ =>
    let (table, removed) := table.remove candidates
    (⟨config, table, if removed then count - 1 else count, ring⟩, removed)

/-- The start of the current interval in nanoseconds, at most the largest 64-bit number, and its
position. -/
def currentInterval (f : ExpiringFilter R) : Nat × Position :=
  (min (f.ring.time * nanosPerSecond) (UInt64.size - 1), f.ring.current)

/-- Empties the filter and starts a new ring. -/
def clear (f : ExpiringFilter R) : Step (ExpiringFilter R) Unit :=
  { state := { f with table := f.table.clear, count := 0, ring := .start f.intervalSeconds }
    answer := ()
    events := [.expiringCleared f.capacity] }

/-! ## Images and snapshots -/

/-- Restores an image that is claimed to hold `claimed` entries. They are counted again; the ring is
kept, but no longer knows which interval to sweep. -/
def restore (f : ExpiringFilter R) (claimed : Nat) (bytes : Bytes) (version : Option Nat) :
    Step (ExpiringFilter R) RestoreStatus :=
  let restored := f.table.restore bytes version
  match restored.answer with
  | .restored =>
    let count := restored.state.occupied
    { state := { f with table := restored.state, count, ring := { f.ring with lru := none } }
      answer := .restored
      events := restored.events ++ if count = claimed then [] else [.recounted claimed count] }
  | status => { state := f, answer := status, events := restored.events }

def snapshot (f : ExpiringFilter R) : Snapshot where
  magic := snapshotMagic
  version := formatVersion
  kind := .expiring
  capacity := f.capacity
  intervalMinutes := some f.config.intervalMinutes
  count := f.count
  ring := some f.ring
  data := f.table.toBytes

/-- A ring stands on the start of an interval, at the position of that interval, and its time in
nanoseconds fits in 64 bits. -/
def ringFits (intervalSeconds : Nat) (r : Ring) : Bool :=
  r.time % intervalSeconds == 0 && BitVec.ofNat 8 (r.time / intervalSeconds) == r.current &&
    decide (r.time * nanosPerSecond < UInt64.size)

/-- Whether a snapshot can be restored, but for its image. -/
def checkSnapshot (f : ExpiringFilter R) (s : Snapshot) : Except Mismatch Unit :=
  match s.checkShape .expiring f.capacity with
  | .error mismatch => .error mismatch
  | .ok () =>
    if s.intervalMinutes ≠ some f.config.intervalMinutes then
      .error (.interval s.intervalMinutes f.config.intervalMinutes)
    else
      match s.ring with
      | none => .ok ()
      | some r => if ringFits f.intervalSeconds r then .ok () else .error (.cursor r.current r.time)

/-- Restores a snapshot of an expiring filter with as many slots and the same interval. Its ring, if
it has one, replaces the filter's. -/
def restoreSnapshot (f : ExpiringFilter R) (s : Snapshot) :
    Step (ExpiringFilter R) (Except Mismatch RestoreStatus) :=
  match f.checkSnapshot s with
  | .error mismatch => { state := f, answer := .error mismatch }
  | .ok () =>
    match f.restore s.count s.data (some s.version) with
    | ⟨f, .restored, events⟩ =>
      ⟨{ f with ring := s.ring.getD f.ring }, .ok .restored, events⟩
    | ⟨f, status, events⟩ => ⟨f, .ok status, events⟩

/-- A filter with the contents of a snapshot, and what happened as it was restored. -/
def ofSnapshot (config : ExpiringConfig) (words : R) (s : Snapshot) :
    Except FilterError (ExpiringFilter R) × List Event :=
  match create config words with
  | .error fault => (.error (.ofConfigFault fault), [])
  | .ok f =>
    match f.restoreSnapshot s with
    | ⟨f, .ok .restored, events⟩ => (.ok f, events)
    | ⟨_, .ok status, events⟩ => (.error (Mismatch.rejected status).toError, events)
    | ⟨_, .error mismatch, events⟩ => (.error mismatch.toError, events)

/-- The text of a filter. -/
def text (f : ExpiringFilter R) : String :=
  Text.record "ExpiringCuckooFilter"
    [("capacity", toString f.capacity), ("buckets", toString f.table.size),
      ("count", toString f.count), ("interval", toString f.intervalSeconds ++ "s"),
      ("current_interval", toString f.ring.current.toNat),
      ("size", byteSizeText f.table.byteSize)]

end ExpiringFilter

end CuckooFilter
