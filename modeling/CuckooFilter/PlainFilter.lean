import CuckooFilter.Key
import CuckooFilter.Snapshot
import CuckooFilter.Text.ByteSize

/-!
# The plain filter

A set of keys seen through 16-bit fingerprints. A key whose fingerprint is already in one of its
buckets counts as present; entries stay until they are deleted or the filter is cleared.
-/

namespace CuckooFilter

structure PlainFilter (R : Type) where
  config : Config
  table : Table 16 0 R
  /-- The number of entries. -/
  count : Nat

namespace PlainFilter

variable {R : Type}

/-- An empty filter whose random choices are drawn from `words`. -/
def create (config : Config) (words : R) : Except ConfigFault (PlainFilter R) :=
  match config.validate with
  | .error fault => .error fault
  | .ok () =>
    .ok { config, table := .ofSize (bucketCount config.capacity) config.hash words, count := 0 }

/-- The number of slots. -/
def capacity (f : PlainFilter R) : Nat :=
  f.table.capacity

/-- Adds a key, unless it counts as present; says whether it was added. -/
def add [WordSource R] (f : PlainFilter R) (key : Key) : Step (PlainFilter R) (Except Full Bool) :=
  let candidates := f.table.locate key.encoding
  match f.table.find candidates with
  | some _ => { state := f, answer := .ok false }
  | none =>
    match f with
    | ⟨config, table, count⟩ =>
      let placed := table.place candidates 0 fun existing _ => existing
      match placed.answer with
      | .error full => ⟨⟨config, placed.state, count⟩, .error full, placed.events⟩
      | .ok placement =>
        let count := if placement.addsEntry then count + 1 else count
        ⟨⟨config, placed.state, count⟩, .ok true, placed.events⟩

/-- Whether a key counts as present. -/
def query (f : PlainFilter R) (key : Key) : Bool :=
  (f.table.find (f.table.locate key.encoding)).isSome

/-- Deletes a key; says whether it counted as present. -/
def delete (f : PlainFilter R) (key : Key) : PlainFilter R × Bool :=
  let candidates := f.table.locate key.encoding
  match f with
  | ⟨config, table, count⟩ =>
    let (table, removed) := table.remove candidates
    (⟨config, table, if removed then count - 1 else count⟩, removed)

def clear (f : PlainFilter R) : Step (PlainFilter R) Unit :=
  { state := { f with table := f.table.clear, count := 0 }
    answer := ()
    events := [.cleared f.capacity] }

/-- Restores an image that is claimed to hold `claimed` entries. They are counted again. -/
def restore (f : PlainFilter R) (claimed : Nat) (bytes : Bytes) (version : Option Nat) :
    Step (PlainFilter R) RestoreStatus :=
  let restored := f.table.restore bytes version
  match restored.answer with
  | .restored =>
    let count := restored.state.occupied
    { state := { f with table := restored.state, count }
      answer := .restored
      events := restored.events ++ if count = claimed then [] else [.recounted claimed count] }
  | status => { state := f, answer := status, events := restored.events }

def snapshot (f : PlainFilter R) : Snapshot where
  magic := snapshotMagic
  version := formatVersion
  kind := .plain
  capacity := f.capacity
  intervalMinutes := none
  count := f.count
  ring := none
  data := f.table.toBytes

/-- Restores a snapshot of a plain filter with as many slots. -/
def restoreSnapshot (f : PlainFilter R) (s : Snapshot) :
    Step (PlainFilter R) (Except Mismatch RestoreStatus) :=
  match s.checkShape .plain f.capacity with
  | .error mismatch => { state := f, answer := .error mismatch }
  | .ok () =>
    let restored := f.restore s.count s.data (some s.version)
    ⟨restored.state, .ok restored.answer, restored.events⟩

/-- A filter with the contents of a snapshot, and what happened as it was restored. -/
def ofSnapshot (config : Config) (words : R) (s : Snapshot) :
    Except FilterError (PlainFilter R) × List Event :=
  match create config words with
  | .error fault => (.error (.ofConfigFault fault), [])
  | .ok f =>
    match f.restoreSnapshot s with
    | ⟨f, .ok .restored, events⟩ => (.ok f, events)
    | ⟨_, .ok status, events⟩ => (.error (Mismatch.rejected status).toError, events)
    | ⟨_, .error mismatch, events⟩ => (.error mismatch.toError, events)

/-- The text of a filter. -/
def text (f : PlainFilter R) : String :=
  Text.record "CuckooFilter"
    [("capacity", toString f.capacity), ("buckets", toString f.table.size),
      ("count", toString f.count), ("size", byteSizeText f.table.byteSize)]

end PlainFilter

end CuckooFilter
