import CuckooFilter.CommandLine.Command
import CuckooFilter.CommandLine.Fault
import CuckooFilter.ExpiringFilter
import CuckooFilter.Random.Xoshiro
import CuckooFilter.Snapshot.Decoding
import CuckooFilter.Text.Blank

/-!
# Removing duplicate lines

Lines go through an expiring filter one by one, each with the time it was read or the timestamp that
it begins with. Keys that the filter takes as new are kept; the rest is counted.
-/

namespace CuckooFilter.CommandLine

/-- The generator of a filter: from its seed, or else from `entropy`. -/
def generator (config : Config) (entropy : UInt64) : Xoshiro :=
  .ofSeed (config.seed.getD entropy)

/-- The expiring filter that a snapshot is of. -/
def expiringOfSnapshot (s : Snapshot) (entropy : UInt64) : Except Fault (ExpiringFilter Xoshiro) :=
  match s.intervalMinutes with
  | none => .error .notExpiring
  | some intervalMinutes =>
    let config : ExpiringConfig := { capacity := s.capacity, intervalMinutes }
    match (ExpiringFilter.ofSnapshot config (generator config.toConfig entropy) s).1 with
    | .error error => .error (.filter error)
    | .ok f => .ok f

/-- A snapshot from the bytes of a file. -/
def readSnapshot (contents : Except SystemFault Bytes) : Except Fault Snapshot :=
  match contents with
  | .error fault => .error (.system fault)
  | .ok bs =>
    match Snapshot.decode bs with
    | .error fault => .error (.filter fault.toError)
    | .ok s => .ok s

/-- A run through the lines of an input. -/
structure Dedupe where
  filter : ExpiringFilter Xoshiro
  /-- The keys taken as new, the latest first. -/
  kept : List String := []
  added : Nat := 0
  duplicates : Nat := 0
  expired : Nat := 0
  /-- How many keys found no slot. -/
  rejected : Nat := 0

namespace Dedupe

/-- A run with an empty filter, or with that of a snapshot. -/
def start (options : DedupeOptions) (loaded : Option (Except SystemFault Bytes)) (entropy : UInt64) :
    Except Fault Dedupe :=
  match loaded with
  | some contents =>
    match readSnapshot contents with
    | .error fault => .error fault
    | .ok s => (expiringOfSnapshot s entropy).map fun filter => { filter }
  | none =>
    let config : ExpiringConfig :=
      { capacity := options.capacity, intervalMinutes := options.intervalMinutes }
    match ExpiringFilter.create config (generator config.toConfig entropy) with
    | .error fault => .error (.filter (.ofConfigFault fault))
    | .ok filter => .ok { filter }

/-- The timestamp and the key of a line; the timestamp stands before the first tab. -/
def splitTimestamp (line : String) : Except Fault (Nat × String) :=
  let field := String.ofList (line.toList.takeWhile (· != '\t'))
  match line.toList.dropWhile (· != '\t') with
  | [] => .error (.noTimestamp line)
  | _ :: key =>
    match Decimal.parse UInt64.size (Text.trim field) with
    | .error reason => .error (.badTimestamp field reason)
    | .ok timestamp => .ok (timestamp, String.ofList key)

/-- Takes a key seen at a timestamp in nanoseconds. -/
def take (d : Dedupe) (timestamp : Nat) (key : String) : Dedupe :=
  match d with
  | { filter, kept, added, duplicates, expired, rejected } =>
    match filter.add (.text key) timestamp with
    | ⟨filter, .ok .added, _⟩ =>
      { filter, kept := key :: kept, added := added + 1, duplicates, expired, rejected }
    | ⟨filter, .ok (.duplicate _), _⟩ =>
      { filter, kept, added, duplicates := duplicates + 1, expired, rejected }
    | ⟨filter, .ok .expired, _⟩ => { filter, kept, added, duplicates, expired := expired + 1, rejected }
    | ⟨filter, .error _, _⟩ => { filter, kept, added, duplicates, expired, rejected := rejected + 1 }

/-- The timestamp and the key of a line that was read at `now`. -/
def readLine (timestamps : Bool) (now : Nat) (bytes : Bytes) : Except Fault (Nat × String) :=
  match String.fromUTF8? ⟨bytes.toArray⟩ with
  | none => .error .notUtf8
  | some line => if timestamps then splitTimestamp line else .ok (now, line)

/-- Takes lines, each with the time it was read, until one is malformed. -/
def takeLines (d : Dedupe) (timestamps : Bool) : List (Nat × Bytes) → Dedupe × Option Fault
  | [] => (d, none)
  | (now, bytes) :: rest =>
    match readLine timestamps now bytes with
    | .error fault => (d, some fault)
    | .ok (timestamp, key) => (d.take timestamp key).takeLines timestamps rest

/-- The keys that were kept, a line each. -/
def output (d : Dedupe) : String :=
  String.join (d.kept.reverse.map fun key => key ++ "\n")

def summary (d : Dedupe) : String :=
  "Dedupe summary:\n" ++
    "  Added: " ++ toString d.added ++ "\n" ++
    "  Duplicates: " ++ toString d.duplicates ++ "\n" ++
    "  Expired: " ++ toString d.expired ++ "\n" ++
    "  Rejected (filter full): " ++ toString d.rejected ++ "\n" ++
    "  Filter: " ++ d.filter.text ++ "\n"

end Dedupe

end CuckooFilter.CommandLine
