import CuckooFilter.CommandLine.Dedupe
import CuckooFilter.PlainFilter

/-!
# Looking into snapshots

A key is looked up in the filter that a snapshot is of; a snapshot is described by its fields, whether
or not a filter could be made of it.
-/

namespace CuckooFilter.CommandLine

/-- The plain filter that a snapshot is of. -/
def plainOfSnapshot (s : Snapshot) (entropy : UInt64) : Except Fault (PlainFilter Xoshiro) :=
  let config : Config := { capacity := s.capacity }
  match (PlainFilter.ofSnapshot config (generator config entropy) s).1 with
  | .error error => .error (.filter error)
  | .ok f => .ok f

/-- Says whether a key is in a snapshot. -/
def checkText (s : Snapshot) (key : String) (entropy : UInt64) : Except Fault String :=
  match s.kind with
  | .expiring =>
    (expiringOfSnapshot s entropy).map fun f =>
      match f.query (.text key) with
      | some position => "Key '" ++ key ++ "' is present (interval " ++ toString position.toNat ++ ")\n"
      | none => "Key '" ++ key ++ "' is not present\n"
  | .plain =>
    (plainOfSnapshot s entropy).map fun f =>
      if f.query (.text key) then "Key '" ++ key ++ "' is present\n"
      else "Key '" ++ key ++ "' is not present\n"

/-- Describes the snapshot in the file `path`. -/
def infoText (path : String) (s : Snapshot) : String :=
  let interval := match s.intervalMinutes with
    | none => ""
    | some minutes => "  Interval: " ++ toString minutes ++ " minutes\n"
  let ring := match s.ring with
    | none => ""
    | some r =>
      "  Current interval: " ++ toString r.current.toNat ++ "\n" ++
        "  Current interval start: " ++ toString r.time ++ "s\n" ++
        "  Next sweep interval: " ++
          (match r.lru with
          | some lru => toString lru.toNat
          | none => "none") ++ "\n"
  "Cuckoo Filter Snapshot:\n" ++
    "  File: " ++ path ++ "\n" ++
    "  Kind: " ++ s.kind.text ++ "\n" ++
    "  Format version: " ++ toString s.version ++ "\n" ++
    "  Capacity: " ++ toString s.capacity ++ "\n" ++
    "  Count: " ++ toString s.count ++ "\n" ++
    "  Load factor: " ++ (Binary64.quotient s.count s.capacity).toFixed 4 ++ "\n" ++
    "  Image size: " ++ byteSizeText s.data.length ++ "\n" ++ interval ++ ring

end CuckooFilter.CommandLine
