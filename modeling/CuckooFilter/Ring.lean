/-!
# The ring of intervals

An expiring filter tags each entry with its interval modulo 256. Such positions are compared through
their recency: the ring is turned so that the current interval has recency 255 and the oldest one
still kept has recency 0.
-/

namespace CuckooFilter

/-- An interval modulo 256. -/
abbrev Position := BitVec 8

/-- Positions in the ring. -/
def ringSize : Nat := 256

/-- The position of the oldest interval kept while `current` is the current one. -/
def oldestPosition (current : Position) : Position :=
  current + 1

/-- Whether `position` is in the range that begins with `first` and ends with `last`, both included;
the range wraps around when `last` stands before `first`. -/
def inRingRange (first last position : Position) : Bool :=
  decide ((position.toNat + ringSize - first.toNat) % ringSize ≤
    (last.toNat + ringSize - first.toNat) % ringSize)

/-- Where an expiring filter stands in time. -/
structure Ring where
  /-- The position of the current interval. -/
  current : Position
  /-- The start of the current interval, in seconds. -/
  time : Nat
  /-- The position that the next capacity sweep is to empty, if one is known. -/
  lru : Option Position
  deriving DecidableEq

namespace Ring

/-- A new ring stands at position 255, so that every time from zero on is still kept. -/
def start (intervalSeconds : Nat) : Ring :=
  { current := 255, time := 255 * intervalSeconds, lru := none }

/-- How recent a position is: 255 for the current interval, 0 for the oldest one kept. -/
def recency (r : Ring) (position : Position) : Nat :=
  (position.toNat + (ringSize - 1) - r.current.toNat) % ringSize

/-- The position of the given recency. -/
def ofRecency (r : Ring) (recency : Nat) : Position :=
  BitVec.ofNat 8 (recency + r.current.toNat + 1)

/-- The start of the oldest interval still kept, in seconds. -/
def windowStart (r : Ring) (intervalSeconds : Nat) : Nat :=
  r.time - intervalSeconds * (ringSize - 1)

/-- Whether `incoming` is more recent than `existing`. -/
def isNewer (r : Ring) (incoming existing : Position) : Bool :=
  decide (r.recency existing < r.recency incoming)

/-- How many intervals lie between two positions. -/
def distance (r : Ring) (a b : Position) : Nat :=
  max (r.recency a) (r.recency b) - min (r.recency a) (r.recency b)

theorem ofRecency_recency (r : Ring) (position : Position) :
    r.ofRecency (r.recency position) = position := by
  have hp := position.isLt
  have hc := r.current.isLt
  apply BitVec.eq_of_toNat_eq
  simp only [ofRecency, recency, ringSize, BitVec.toNat_ofNat]
  omega

/-- The current interval is the most recent one. -/
theorem recency_current (r : Ring) : r.recency r.current = 255 := by
  have hc := r.current.isLt
  simp only [recency, ringSize]
  omega

/-- Of the intervals kept, the one at `oldestPosition` is the least recent. -/
theorem recency_oldestPosition (r : Ring) : r.recency (oldestPosition r.current) = 0 := by
  have hc := r.current.isLt
  have hone : (1 : Position).toNat = 1 := rfl
  simp only [recency, ringSize, oldestPosition, BitVec.toNat_add, hone]
  omega

end Ring

end CuckooFilter
