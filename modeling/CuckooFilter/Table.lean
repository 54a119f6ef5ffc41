import CuckooFilter.Bucket
import CuckooFilter.Random

/-!
# The bucket table

Every entry lives in one of two buckets: the first is chosen by the key's hash, the second is the
alternate of the first (`Table.alternate`). The table is parametric in the bits of fingerprints and
tags, in the hash function and in the source of random words. It is seen through the list of its
slots, bucket by bucket.
-/

namespace CuckooFilter

/-- Buckets, the function that keys and fingerprints are hashed by, and the words that relocation
walks draw from. -/
structure Table (w v : Nat) (R : Type) where
  buckets : Array (Bucket w v)
  hash : HashFunction
  words : R

/-- A key's fingerprint and the two buckets it may be in. -/
structure Candidates (w : Nat) where
  fingerprint : Fingerprint w
  primary : Nat
  secondary : Nat
  deriving DecidableEq

namespace Table

variable {w v : Nat} {R : Type}

/-- A table of empty buckets; their number is to be a power of two. -/
def ofSize (buckets : Nat) (hash : HashFunction) (words : R) : Table w v R :=
  ⟨Array.replicate buckets .empty, hash, words⟩

/-- The number of buckets. -/
def size (t : Table w v R) : Nat :=
  t.buckets.size

/-- The number of slots. -/
def capacity (t : Table w v R) : Nat :=
  t.size * bucketSize

def bucket (t : Table w v R) (i : Nat) : Bucket w v :=
  t.buckets.getD i .empty

/-- The table with another bucket at `i`. -/
def setBucket (t : Table w v R) (i : Nat) (b : Bucket w v) : Table w v R :=
  match t with
  | ⟨buckets, hash, words⟩ => ⟨buckets.setIfInBounds i b, hash, words⟩

/-- All slots, in bucket order. -/
def slots (t : Table w v R) : List (Slot w v) :=
  t.buckets.toList.flatMap fun b => b.slots.toList

/-- The number of slots that hold an entry. -/
def occupied (t : Table w v R) : Nat :=
  t.buckets.foldl (fun n b => n + b.occupied) 0

/-- The tags of all entries, in bucket order. -/
def liveTags (t : Table w v R) : List (Tag v) :=
  t.buckets.foldr (fun b tags => b.liveTags ++ tags) []

/-- The other bucket that `f` may be in when it is in bucket `i`. -/
def alternate (t : Table w v R) (i : Nat) (f : Fingerprint w) : Nat :=
  CuckooFilter.alternate t.size (f.digest t.hash) i

/-- The fingerprint and the buckets of the key with the given bytes. -/
def locate (t : Table w v R) (key : Bytes) : Candidates w :=
  let hash := t.hash key hashSeed
  let fingerprint := Fingerprint.ofHash w hash
  let primary := hash.toNat % t.size
  { fingerprint, primary, secondary := t.alternate primary fingerprint }

/-- The bucket and slot that hold the fingerprint, the first bucket searched first. -/
def find (t : Table w v R) (c : Candidates w) : Option (Nat × Fin bucketSize) :=
  match (t.bucket c.primary).lookup c.fingerprint with
  | some i => some (c.primary, i)
  | none => ((t.bucket c.secondary).lookup c.fingerprint).map fun i => (c.secondary, i)

def slot (t : Table w v R) (bucket : Nat) (i : Fin bucketSize) : Slot w v :=
  (t.bucket bucket).slots.get i

def setSlot (t : Table w v R) (bucket : Nat) (i : Fin bucketSize) (s : Slot w v) : Table w v R :=
  t.setBucket bucket ((t.bucket bucket).set i s)

def setTag (t : Table w v R) (bucket : Nat) (i : Fin bucketSize) (tag : Tag v) : Table w v R :=
  t.setSlot bucket i { t.slot bucket i with tag }

/-- Empties one slot that holds the fingerprint, in the first bucket if it is there; says whether
there was one. -/
def remove (t : Table w v R) (c : Candidates w) : Table w v R × Bool :=
  match (t.bucket c.primary).erase c.fingerprint with
  | some b => (t.setBucket c.primary b, true)
  | none =>
    match (t.bucket c.secondary).erase c.fingerprint with
    | some b => (t.setBucket c.secondary b, true)
    | none => (t, false)

/-- Empties the slots whose tag has expired; says how many there were. -/
def prune (t : Table w v R) (p : Tag v → Bool) : Table w v R × Nat :=
  match t with
  | ⟨buckets, hash, words⟩ =>
    let removed := buckets.foldl (fun n b => n + b.expired p) 0
    (⟨buckets.map (·.prune p), hash, words⟩, removed)

/-- The table with all buckets empty. -/
def clear (t : Table w v R) : Table w v R :=
  { t with buckets := Array.replicate t.size .empty }

end Table

end CuckooFilter
