import CuckooFilter.Event
import CuckooFilter.Table

/-!
# Placing an entry

An entry goes to an empty slot of one of its two buckets. When both are full a walk makes room: it
puts the entry it carries in the place of a randomly chosen one, takes that one to its other bucket,
and goes on from there with what it displaces. It ends in a bucket with an empty slot, or in one
that already holds the fingerprint it carries, whose tag then absorbs the carried tag. After
`maxKicks` moves it gives up and puts every entry back where it was.
-/

namespace CuckooFilter

/-- How many entries a walk moves before it gives up. -/
def maxKicks : Nat := 512

/-- No slot was found after moving `kicks` entries. -/
structure Full where
  kicks : Nat
  deriving DecidableEq

/-- How a new entry came into the table. -/
inductive Placement (v : Nat)
  /-- In an empty slot of one of its own buckets. -/
  | direct
  /-- After `kicks` entries were moved. -/
  | relocated (kicks : Nat)
  /-- After `kicks` entries were moved, the last one, with tag `incoming`, into an entry with the same
  fingerprint and tag `existing`. -/
  | merged (kicks : Nat) (existing incoming : Tag v)
  deriving DecidableEq

/-- Whether the placement filled one more slot. -/
def Placement.addsEntry {v : Nat} : Placement v → Bool
  | .direct | .relocated _ => true
  | .merged .. => false

namespace Table

variable {w v : Nat} {R : Type}

/-- Stores `incoming` and gives what was there before. -/
def exchange (t : Table w v R) (bucket : Nat) (i : Fin bucketSize) (incoming : Slot w v) :
    Slot w v × Table w v R :=
  let outgoing := t.slot bucket i
  (outgoing, t.setSlot bucket i incoming)

/-- Undoes the exchanges at the places of `path`, the latest first, given what the last one gave. -/
def unwind (t : Table w v R) (carried : Slot w v) : List (Nat × Fin bucketSize) → Table w v R
  | [] => t
  | (bucket, i) :: path =>
    let (carried, t) := t.exchange bucket i carried
    t.unwind carried path

variable [WordSource R]

/-- The next random word, and the table with the words after it. -/
def draw (t : Table w v R) : UInt64 × Table w v R :=
  match t with
  | ⟨buckets, hash, words⟩ =>
    let (word, words) := next words
    (word, ⟨buckets, hash, words⟩)

/-- The walk from the full bucket `index` with the entry `carried`, with `left` moves to go and those
of `path` behind it. -/
def walk (merge : Tag v → Tag v → Tag v) : (left : Nat) → (t : Table w v R) → (index : Nat) →
    (carried : Slot w v) → (path : List (Nat × Fin bucketSize)) →
    Step (Table w v R) (Except Full (Placement v))
  | 0, t, _, carried, path =>
    let buckets := t.size
    { state := t.unwind carried path
      answer := .error ⟨path.length⟩
      events := [.full path.length buckets] }
  | left + 1, t, index, carried, path =>
    let (word, t) := t.draw
    let i := slotChoice word
    let (carried, t) := t.exchange index i carried
    let path := (index, i) :: path
    let index := t.alternate index carried.fingerprint
    match (t.bucket index).lookup carried.fingerprint with
    | some twin =>
      let existing := (t.slot index twin).tag
      { state := t.setTag index twin (merge existing carried.tag)
        answer := .ok (.merged path.length existing carried.tag)
        events := [.merged path.length index] }
    | none =>
      match (t.bucket index).insert carried with
      | some b =>
        { state := t.setBucket index b
          answer := .ok (.relocated path.length)
          events := [.relocated path.length index] }
      | none => walk merge left t index carried path

/-- Stores an entry. When a walk meets a second copy of the entry it carries, the copy's tag becomes
`merge existing incoming`. -/
def place (t : Table w v R) (c : Candidates w) (tag : Tag v) (merge : Tag v → Tag v → Tag v) :
    Step (Table w v R) (Except Full (Placement v)) :=
  let entry : Slot w v := ⟨c.fingerprint, tag⟩
  match (t.bucket c.primary).insert entry with
  | some b => { state := t.setBucket c.primary b, answer := .ok .direct }
  | none =>
    match (t.bucket c.secondary).insert entry with
    | some b => { state := t.setBucket c.secondary b, answer := .ok .direct }
    | none =>
      let (word, t) := t.draw
      walk merge maxKicks t (if coin word then c.primary else c.secondary) entry []

end Table

end CuckooFilter
