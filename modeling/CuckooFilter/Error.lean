import CuckooFilter.Config
import CuckooFilter.Table.Relocation
import CuckooFilter.Text.Quoted

/-!
# Errors as they are reported

Each operation fails for reasons of its own. Where several kinds of failure meet, a failure is
reported by its kind and the text of its cause; it has a message for people and a structured text.
-/

namespace CuckooFilter

inductive FilterError
  | invalidConfig (cause : String)
  | full (kicks : Nat)
  | serialization (cause : String)
  | snapshotMismatch (cause : String)
  | time (cause : String)
  deriving DecidableEq

namespace FilterError

def ofConfigFault (fault : ConfigFault) : FilterError :=
  .invalidConfig fault.message

def ofFull (full : Full) : FilterError :=
  .full full.kicks

def kind : FilterError → String
  | .invalidConfig _ => "InvalidConfig"
  | .full _ => "Full"
  | .serialization _ => "SerializationError"
  | .snapshotMismatch _ => "SnapshotMismatch"
  | .time _ => "TimeError"

def message : FilterError → String
  | .invalidConfig cause => "Invalid configuration: " ++ cause
  | .full kicks =>
    "The cuckoo filter is full: no free slot after " ++ toString kicks ++ " relocations"
  | .serialization cause => "Serialization error: " ++ cause
  | .snapshotMismatch cause => "Snapshot does not match this filter: " ++ cause
  | .time cause => "Time error: " ++ cause

/-- The structured text of an error. -/
def text (e : FilterError) : String :=
  match e with
  | .full kicks => Text.record e.kind [("kicks", toString kicks)]
  | .invalidConfig cause | .serialization cause | .snapshotMismatch cause | .time cause =>
    Text.applied e.kind (Text.quoted cause)

end FilterError

end CuckooFilter
