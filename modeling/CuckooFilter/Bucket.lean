import CuckooFilter.Fingerprint
import CuckooFilter.Text.Structured

/-!
# Buckets

A bucket has four slots, each with a fingerprint of `w` bits and a tag of `v` bits. A slot is empty
when its fingerprint is zero, whatever its tag. Every operation works on the first slot that fits.
-/

namespace CuckooFilter

/-- What a filter keeps beside a fingerprint: `v` bits, none for a filter that keeps nothing. -/
abbrev Tag (v : Nat) := BitVec v

/-- A place for one entry. -/
structure Slot (w v : Nat) where
  fingerprint : Fingerprint w
  tag : Tag v
  deriving DecidableEq

namespace Slot

variable {w v : Nat}

def empty : Slot w v := ⟨0, 0⟩

instance : Inhabited (Slot w v) := ⟨empty⟩

/-- Whether the slot holds an entry. -/
def occupied (s : Slot w v) : Bool :=
  s.fingerprint.toNat != 0

/-- Whether the slot holds an entry whose tag has expired. -/
def expired (p : Tag v → Bool) (s : Slot w v) : Bool :=
  s.occupied && p s.tag

theorem occupied_iff {s : Slot w v} : s.occupied ↔ s.fingerprint ≠ 0 := by
  simp [occupied, ← BitVec.toNat_inj]

end Slot

/-- Four slots. -/
structure Bucket (w v : Nat) where
  slots : Vector (Slot w v) bucketSize
  deriving DecidableEq

namespace Bucket

variable {w v : Nat}

def empty : Bucket w v := ⟨Vector.replicate bucketSize .empty⟩

instance : Inhabited (Bucket w v) := ⟨empty⟩

/-- The first slot that holds the fingerprint; for zero, the first empty slot. -/
def lookup (b : Bucket w v) (f : Fingerprint w) : Option (Fin bucketSize) :=
  b.slots.findFinIdx? fun s => s.fingerprint == f

/-- The bucket with another slot at `i`. -/
def set (b : Bucket w v) (i : Fin bucketSize) (s : Slot w v) : Bucket w v :=
  ⟨b.slots.set i s⟩

/-- The bucket with `s` in its first empty slot, if it has one. -/
def insert (b : Bucket w v) (s : Slot w v) : Option (Bucket w v) :=
  (b.lookup 0).map fun i => b.set i s

/-- The bucket with the first slot that holds `f` emptied, if there is one. -/
def erase (b : Bucket w v) (f : Fingerprint w) : Option (Bucket w v) :=
  (b.lookup f).map fun i => b.set i .empty

/-- How many slots hold an entry. -/
def occupied (b : Bucket w v) : Nat :=
  b.slots.countP Slot.occupied

/-- The tags of the entries. -/
def liveTags (b : Bucket w v) : List (Tag v) :=
  b.slots.foldr (fun s tags => if s.occupied then s.tag :: tags else tags) []

/-- How many slots hold an entry whose tag has expired. -/
def expired (p : Tag v → Bool) (b : Bucket w v) : Nat :=
  b.slots.countP (Slot.expired p)

/-- The bucket without the entries whose tag has expired. -/
def prune (p : Tag v → Bool) (b : Bucket w v) : Bucket w v :=
  if b.slots.any (Slot.expired p) then ⟨b.slots.map fun s => if s.expired p then .empty else s⟩ else b

theorem occupied_eq (b : Bucket w v) : b.occupied = b.slots.toList.countP Slot.occupied := by
  rw [occupied, Vector.countP_toList]

theorem expired_eq (p : Tag v → Bool) (b : Bucket w v) :
    b.expired p = b.slots.toList.countP (Slot.expired p) := by
  rw [expired, Vector.countP_toList]

theorem liveTags_eq (b : Bucket w v) :
    b.liveTags = (b.slots.toList.filter Slot.occupied).map Slot.tag := by
  rw [liveTags, ← Vector.foldr_toList]
  induction b.slots.toList with
  | nil => rfl
  | cons s slots ih => by_cases h : s.occupied <;> simp [h, ih]

/-- A bucket in which nothing has expired is left as it is, slot by slot as any other. -/
theorem slots_prune (p : Tag v → Bool) (b : Bucket w v) :
    (b.prune p).slots = b.slots.map fun s => if s.expired p then .empty else s := by
  unfold prune
  split
  · rfl
  · rename_i h
    refine (Vector.ext fun i hi => ?_).symm
    have hs : ¬ b.slots[i].expired p := fun hs => h (Vector.any_eq_true.2 ⟨i, hi, hs⟩)
    simp [hs]

/-- The text of a tag; a tag without bits is an empty tuple. -/
def tagText (tag : Tag v) : String :=
  if v = 0 then "()" else toString tag.toNat

/-- The text of a bucket: its fingerprints, then its tags. -/
def text (b : Bucket w v) : String :=
  Text.record "Bucket"
    [("entries", Text.listed (b.slots.toList.map fun s => toString s.fingerprint.toNat)),
      ("tags", Text.listed (b.slots.toList.map fun s => tagText s.tag))]

end Bucket

end CuckooFilter
