import CuckooFilter.Hash.Murmur
import CuckooFilter.Geometry

/-!
# Configuration

A filter is configured by the number of entries it is to hold, the hash function, a seed for its
random choices, and an expiring one also by the length of an interval in minutes.
-/

namespace CuckooFilter

/-- The largest capacity: the number of buckets has to fit in 32 bits. -/
def maxCapacity : Nat := 1 <<< 31 * bucketSize

/-- The longest interval: one day. -/
def maxIntervalMinutes : Nat := 1440

/-- What is wrong with a configuration. -/
inductive ConfigFault
  | capacityTooSmall (capacity : Nat)
  | capacityTooLarge (capacity : Nat)
  | interval (minutes : Nat)
  deriving DecidableEq

def ConfigFault.message : ConfigFault → String
  | .capacityTooSmall capacity =>
    "Capacity must be greater than " ++ toString bucketSize ++ ", got " ++ toString capacity
  | .capacityTooLarge capacity =>
    "Capacity must not exceed " ++ toString maxCapacity ++ ", got " ++ toString capacity
  | .interval minutes =>
    "Interval size must be between 1 and " ++ toString maxIntervalMinutes ++ " minutes, got " ++
      toString minutes

/-- The configuration of a plain filter. Without a seed the random choices are the caller's. -/
structure Config where
  capacity : Nat := 1000000
  hash : HashFunction := Murmur.hash
  seed : Option UInt64 := none

/-- The configuration of an expiring filter. -/
structure ExpiringConfig extends Config where
  intervalMinutes : Nat := 1

/-- A capacity that fills more than one bucket and is not too large. -/
def checkCapacity (capacity : Nat) : Except ConfigFault Unit :=
  if capacity ≤ bucketSize then .error (.capacityTooSmall capacity)
  else if maxCapacity < capacity then .error (.capacityTooLarge capacity)
  else .ok ()

def Config.validate (c : Config) : Except ConfigFault Unit :=
  checkCapacity c.capacity

namespace ExpiringConfig

/-- The capacity is checked before the interval. -/
def validate (c : ExpiringConfig) : Except ConfigFault Unit :=
  match checkCapacity c.capacity with
  | .error fault => .error fault
  | .ok () =>
    if c.intervalMinutes = 0 ∨ maxIntervalMinutes < c.intervalMinutes then
      .error (.interval c.intervalMinutes)
    else .ok ()

/-- The length of an interval in seconds. -/
def intervalSeconds (c : ExpiringConfig) : Nat :=
  c.intervalMinutes * 60

end ExpiringConfig

end CuckooFilter
