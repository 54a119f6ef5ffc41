import CuckooFilter.CommandLine.Report
import CuckooFilter.Text.Lines

/-!
# Runs in a directory

A directory is a value here: the files that runs found or left in it. A path is followed name by name
from the directory, or from the root if it begins with a slash; all names but the last have to lead to
directories, and so has the last if a slash stands behind it. Besides the files there are a few devices
below the root, the standard streams of the run among them. `Directory.run` is a whole run, with what
it writes.
-/

namespace CuckooFilter.CommandLine

/-- Where a path leads: the names on the way from the directory, the last one first. The root is the
place `["/"]`, and `[".."]` is the parent. -/
abbrev Place := List String

def Place.parent : Place → Place
  | [] => [".."]
  | ["/"] => ["/"]
  | ".." :: place => ".." :: ".." :: place
  | _ :: place => place

/-- A path that has been taken apart. -/
structure Path where
  /-- Where the path begins. -/
  start : Place
  names : List String
  /-- Whether a slash stands behind the last name. -/
  closed : Bool

/-- Takes a path apart. It has at most 4095 bytes. -/
def Path.parse (path : String) : Except SystemFault Path :=
  if 4095 < path.utf8ByteSize then .error .nameTooLong
  else if path.isEmpty then .error .notFound
  else .ok { start := if path.toList.head? = some '/' then ["/"] else []
             names := (path.splitOn "/").filter (· ≠ "")
             closed := path.toList.getLast? = some '/' }

/-- What a run shows, and the code it ends with. -/
structure Outcome where
  stdout : Bytes := []
  stderr : Bytes := []
  code : Nat := 0

/-- One outcome after another. -/
def Outcome.append (a b : Outcome) : Outcome :=
  { stdout := a.stdout ++ b.stdout, stderr := a.stderr ++ b.stderr, code := b.code }

def Report.outcome (r : Report) : Outcome :=
  { stdout := r.stdout.toUTF8.data.toList, stderr := r.stderr.toUTF8.data.toList, code := r.code }

inductive Device
  /-- It is empty, and what is written to it is gone. -/
  | null
  /-- It has no room for anything. -/
  | full
  | stdin
  | stdout
  | stderr

def devices : List (Place × Device) :=
  [(["null", "dev", "/"], .null), (["full", "dev", "/"], .full),
    (["stdin", "dev", "/"], .stdin), (["0", "fd", "dev", "/"], .stdin),
    (["stdout", "dev", "/"], .stdout), (["1", "fd", "dev", "/"], .stdout),
    (["stderr", "dev", "/"], .stderr), (["2", "fd", "dev", "/"], .stderr)]

/-- What a device shows of the bytes that are written to it. -/
def Device.write (device : Device) (bs : Bytes) : Except SystemFault Outcome :=
  match device with
  | .null | .stdin => .ok {}
  | .full => if bs.isEmpty then .ok {} else .error .storageFull
  | .stdout => .ok { stdout := bs }
  | .stderr => .ok { stderr := bs }

/-- The files of a directory, by their places. -/
structure Directory where
  files : List (Place × Bytes) := []

/-- What a path can lead to. -/
inductive Entry
  | directory
  | file (bs : Bytes)
  | device (device : Device)

namespace Directory

/-- The directory that holds some files, each with its path from there. -/
def ofFiles (files : List (String × Bytes)) : Directory :=
  { files := files.map fun (path, bs) => (((path.splitOn "/").filter (· ≠ "")).reverse, bs) }

/-- The directories that stand at the root. -/
def standardNames : List String :=
  ["bin", "boot", "dev", "etc", "home", "lib", "media", "mnt", "opt", "proc", "root", "run", "sbin",
    "srv", "sys", "tmp", "usr", "var"]

/-- Whether a place has to be a directory: paths begin there, or it is above that, or stands at the
root, or is on the way to a file or a device. -/
def onTheWay (d : Directory) (place : Place) : Bool :=
  place.all (fun name => name = ".." || name = "/") ||
    standardNames.any (fun name => place = [name, "/"]) ||
    (devices.map (·.1) ++ d.files.map (·.1)).any fun below => place.isSuffixOf below

def entry? (d : Directory) (place : Place) : Option Entry :=
  match devices.lookup place, d.files.lookup place with
  | some device, _ => some (.device device)
  | none, some bs => some (.file bs)
  | none, none => if d.onTheWay place then some .directory else none

/-- Where a name leads to from a directory. It has at most 255 bytes. -/
def lookUp (d : Directory) (place : Place) (name : String) : Except SystemFault (Place × Entry) :=
  if name = "." then .ok (place, .directory)
  else if name = ".." then .ok (place.parent, .directory)
  else if 255 < name.utf8ByteSize then .error .nameTooLong
  else match d.entry? (name :: place) with
    | some entry => .ok (name :: place, entry)
    | none => .error .notFound

/-- The directory that a name leads to. -/
def enter (d : Directory) (place : Place) (name : String) : Except SystemFault Place :=
  match d.lookUp place name with
  | .ok (place, .directory) => .ok place
  | .ok _ => .error .notADirectory
  | .error fault => .error fault

/-- What a path leads to. -/
def find (d : Directory) (path : String) : Except SystemFault Entry := do
  let path ← Path.parse path
  let place ← path.names.dropLast.foldlM d.enter path.start
  match path.names.getLast? with
  | none => return .directory
  | some name =>
    match ← d.lookUp place name, path.closed with
    | (_, .directory), _ => return .directory
    | (_, entry), false => return entry
    | _, true => throw .notADirectory

/-- What is read at `path` in a run with the standard input `input`. -/
def read (d : Directory) (input : Bytes) (path : String) : Except SystemFault Bytes := do
  match ← d.find path with
  | .directory => throw .isADirectory
  | .file bs => return bs
  | .device .stdin => return input
  | .device _ => return []

def put (d : Directory) (place : Place) (bs : Bytes) : Directory :=
  { files := (place, bs) :: d.files.filter fun file => file.1 ≠ place }

/-- The directory after `bs` was written at `path`, and what is shown of that. A path that ends like
that of a directory is refused as one, whether or not there is such a directory. -/
def write (d : Directory) (path : String) (bs : Bytes) : Except SystemFault (Directory × Outcome) := do
  let path ← Path.parse path
  let place ← path.names.dropLast.foldlM d.enter path.start
  match path.names.getLast? with
  | none => throw .isADirectory
  | some name =>
    if path.closed then throw .isADirectory
    match d.lookUp place name with
    | .ok (_, .directory) => throw .isADirectory
    | .ok (_, .device device) => return (d, ← device.write bs)
    | .ok (place, .file _) => return (d.put place bs, {})
    | .error fault => if fault = .notFound then return (d.put (name :: place) bs, {}) else throw fault

/-- The standard input that is left for the lines of a command: nothing once its snapshot was read
from there. -/
def remaining (d : Directory) (command : Command) (input : Bytes) : Bytes :=
  match command with
  | .dedupe { load := some path, .. } =>
    match d.find path with
    | .ok (.device .stdin) => []
    | _ => input
  | _ => input

/-- What a command finds in a directory, with `input` as its standard input, all of it read at
`now`. -/
def surroundings (d : Directory) (command : Command) (input : Bytes) (now : Nat) (entropy : UInt64) :
    Surroundings :=
  let left := d.remaining command input
  { file := d.read input
    lines := fun path => do
      let bs ← match path with
        | none => pure left
        | some path => d.read left path
      return (Text.lines bs).map (now, ·)
    entropy }

/-- Writes the file that a report saves. -/
def save (d : Directory) (report : Report) : Outcome × Directory :=
  match report.save with
  | none => (report.outcome, d)
  | some (path, bs) =>
    match d.write path bs with
    | .error fault => (report.outcome.append (Report.ofSave path (.error fault)).outcome, d)
    | .ok (d, shown) =>
      ((report.outcome.append shown).append (Report.ofSave path (.ok ())).outcome, d)

/-- Runs the command that the arguments make, and writes the file that it saves. -/
def run (d : Directory) (arguments : List String) (input : Bytes) (now : Nat) (entropy : UInt64) :
    Outcome × Directory :=
  match Command.parse arguments with
  | .error usage => (usage.report.outcome, d)
  | .ok command => d.save (runCommand command (d.surroundings command input now entropy))

end Directory

end CuckooFilter.CommandLine
