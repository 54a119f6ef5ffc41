/-!
# Events

Operations report what happened inside them as events, in order, beside their answer. An event has
a level, a message and named values, and is written on one line.
-/

namespace CuckooFilter

inductive Event
  /-- A relocation walk ended in a bucket that already held the entry it carried. -/
  | merged (kicks bucket : Nat)
  /-- A relocation walk ended in a bucket with an empty slot. -/
  | relocated (kicks bucket : Nat)
  /-- A relocation walk gave up. -/
  | full (kicks buckets : Nat)
  /-- An image was refused for its version. -/
  | unsupportedVersion (version : Nat)
  /-- An image was refused for its size. -/
  | wrongSize (expected found : Nat)
  /-- A restored image holds another number of entries than was claimed. -/
  | recounted (claimed occupied : Nat)
  /-- A plain filter was emptied. -/
  | cleared (capacity : Nat)
  /-- An expiring filter was emptied. -/
  | expiringCleared (capacity : Nat)
  /-- An expiring filter moved to a later interval. -/
  | advanced (interval elapsed pruned count : Nat)
  /-- A capacity sweep emptied an interval. -/
  | swept (interval pruned count : Nat)
  deriving DecidableEq

namespace Event

def level : Event → String
  | .merged .. | .relocated .. | .advanced .. => "DEBUG"
  | .cleared .. | .expiringCleared .. | .swept .. => "INFO"
  | .full .. | .unsupportedVersion .. | .wrongSize .. | .recounted .. => "WARN"

def message : Event → String
  | .merged .. => "relocated entry merged"
  | .relocated .. => "relocated entry placed"
  | .full .. => "cuckoo filter is full"
  | .unsupportedVersion .. => "ignoring image with unsupported format version"
  | .wrongSize .. => "ignoring image of the wrong size"
  | .recounted .. => "restored count disagrees with image, using recount"
  | .cleared .. => "cuckoo filter cleared"
  | .expiringCleared .. => "expiring cuckoo filter cleared"
  | .advanced .. => "advanced interval"
  | .swept .. => "capacity sweep evicted interval"

/-- The named values of an event, in order. -/
def fields : Event → List (String × Nat)
  | .merged kicks bucket | .relocated kicks bucket => [("kicks", kicks), ("bucket", bucket)]
  | .full kicks buckets => [("kicks", kicks), ("buckets", buckets)]
  | .unsupportedVersion version => [("version", version)]
  | .wrongSize expected found => [("expected", expected), ("found", found)]
  | .recounted claimed occupied => [("claimed", claimed), ("occupied", occupied)]
  | .cleared capacity | .expiringCleared capacity => [("capacity", capacity)]
  | .advanced interval elapsed pruned count =>
    [("interval", interval), ("elapsed", elapsed), ("pruned", pruned), ("count", count)]
  | .swept interval pruned count =>
    [("interval", interval), ("pruned", pruned), ("count", count)]

/-- The line of an event. -/
def line (e : Event) : String :=
  e.fields.foldl (fun line (name, value) => line ++ " " ++ name ++ "=" ++ toString value)
    (e.level ++ " " ++ e.message)

end Event

/-- What an operation leaves: the state after it, its answer, and the events on the way. -/
structure Step (σ α : Type) where
  state : σ
  answer : α
  events : List Event := []

end CuckooFilter
