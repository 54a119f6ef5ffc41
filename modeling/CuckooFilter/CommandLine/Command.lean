import CuckooFilter.CommandLine.Arguments
import CuckooFilter.Config

/-!
# Commands

`dedupe` prints each line of its input the first time it is seen, `check` looks a key up in a
snapshot, `info` describes a snapshot. `help` explains all commands, or the one it is followed by.
-/

namespace CuckooFilter.CommandLine

structure DedupeOptions where
  /-- The file to read; standard input if there is none. -/
  input : Option String := none
  /-- Whether each line begins with a timestamp and a tab. -/
  timestamps : Bool := false
  capacity : Nat := ({} : Config).capacity
  intervalMinutes : Nat := ({} : ExpiringConfig).intervalMinutes
  /-- The snapshot to begin with. -/
  load : Option String := none
  /-- The file for a snapshot at the end. -/
  save : Option String := none

/-- What a command on a snapshot has been told so far. -/
structure SnapshotOptions where
  snapshot : Option String := none
  key : Option String := none

inductive Command
  | dedupe (options : DedupeOptions)
  | check (snapshot key : String)
  | info (snapshot : String)

namespace Command

def dedupeSpecs : List (OptionSpec DedupeOptions) :=
  [{ name := "input", letter := some 'i'
     set := fun o value => (path value).map fun path => { o with input := some path } },
    { name := "timestamps", letter := some 't', takesValue := false
      set := fun o _ => .ok { o with timestamps := true } },
    { name := "capacity", letter := some 'c'
      set := fun o value => (number UInt64.size value).map fun n => { o with capacity := n } },
    { name := "interval"
      set := fun o value => (signedNumber UInt32.size value).map fun n => { o with intervalMinutes := n } },
    { name := "load", letter := some 'l'
      set := fun o value => (path value).map fun path => { o with load := some path } },
    { name := "save", letter := some 's'
      set := fun o value => (path value).map fun path => { o with save := some path } }]

def snapshotSpec : OptionSpec SnapshotOptions :=
  { name := "snapshot", letter := some 's'
    set := fun o value => (path value).map fun path => { o with snapshot := some path } }

def keySpec : OptionSpec SnapshotOptions :=
  { name := "key", letter := some 'k', set := fun o value => .ok { o with key := some value } }

def parseDedupe (arguments : List String) : Except Usage Command :=
  (readOptions dedupeSpecs {} arguments).map .dedupe

def parseCheck (arguments : List String) : Except Usage Command := do
  let options ← readOptions [snapshotSpec, keySpec] {} arguments
  return .check (← required options.snapshot) (← required options.key)

def parseInfo (arguments : List String) : Except Usage Command := do
  let options ← readOptions [snapshotSpec] {} arguments
  return .info (← required options.snapshot)

/-- What arguments behind `help` ask for: they are empty or one word that is a command. -/
def parseHelp : List String → Usage
  | [] => .help
  | [name] => if ["dedupe", "check", "info", "help"].contains name then .help else .invalid
  | _ => .invalid

/-- The command that the arguments make. Without a command, only help and the version can be asked
for. -/
def parse : List String → Except Usage Command
  | "dedupe" :: arguments => parseDedupe arguments
  | "check" :: arguments => parseCheck arguments
  | "info" :: arguments => parseInfo arguments
  | "help" :: arguments => .error (parseHelp arguments)
  | arguments =>
    match readOptions [versionSpec] () arguments with
    | .error usage => .error usage
    | .ok () => .error .invalid

end Command

end CuckooFilter.CommandLine
