import Std.Time.DateTime.Timestamp
import CuckooFilter.CommandLine.Report
import CuckooFilter.Text.Lines

/-!
# The program `ckf`

Reads the files and the input that a command asks for, prints its report, and writes its snapshot.
-/

namespace CuckooFilter.CommandLine

/-- The code and the text that an error comes with. A code may be negated, so its sign is dropped. -/
def errorDetails : IO.Error → Nat × String
  | .alreadyExists _ code details | .otherError code details | .resourceBusy code details
  | .resourceVanished code details | .unsupportedOperation code details
  | .hardwareFault code details | .unsatisfiedConstraints code details
  | .illegalOperation code details | .protocolError code details | .timeExpired code details
  | .interrupted _ code details | .noFileOrDirectory _ code details
  | .invalidArgument _ code details | .permissionDenied _ code details
  | .resourceExhausted _ code details | .inappropriateType _ code details
  | .noSuchThing _ code details => (code.toInt32.toInt.natAbs, details)
  | .unexpectedEof => (0, "unexpected end of file")
  | .userError details => (0, details)

def systemFault (e : IO.Error) : SystemFault :=
  let (code, details) := errorDetails e
  (SystemFault.known.find? (·.code == code)).getD ⟨code, "Uncategorized", details⟩

/-- The result of an action, or the failure that it ended with. -/
def attempt {α : Type} (action : IO α) : IO (Except SystemFault α) :=
  try return .ok (← action)
  catch e => return .error (systemFault e)

/-- The time in nanoseconds since the epoch. -/
def clock : IO Nat := do
  return (← Std.Time.Timestamp.now).toNanosecondsSinceUnixEpoch.val.toNat

def readFile (path : String) : IO (Except SystemFault Bytes) :=
  attempt do return (← IO.FS.readBinFile path).data.toList

/-- The lines of standard input, each with the time at which it was complete. -/
partial def inputLines : IO (List (Nat × Bytes)) := do
  let stdin ← IO.getStdin
  let rec loop (reversed : Bytes) (done : List (Nat × Bytes)) : IO (List (Nat × Bytes)) := do
    match (← stdin.read 1).data.toList with
    | b :: _ =>
      if b = Text.lineFeed then loop [] ((← clock, Text.endLine reversed) :: done)
      else loop (b :: reversed) done
    | [] =>
      if reversed.isEmpty then return done.reverse
      else return ((← clock, reversed.reverse) :: done).reverse
  loop [] []

/-- The lines of a file, or of standard input. -/
def readLines : Option String → IO (Except SystemFault (List (Nat × Bytes)))
  | none => attempt inputLines
  | some path => do
    let now ← clock
    return (← readFile path).map fun bs => (Text.lines bs).map (now, ·)

/-- A word to seed generators with. -/
def readEntropy : IO UInt64 := do
  return UInt64.ofNat (ofLittleEndian (← IO.getRandomBytes 8).data.toList)

/-- The report of a command. Input is read only once there is a filter to take it. -/
def report : Command → IO Report
  | .dedupe options => do
    match Dedupe.start options (← options.load.mapM readFile) (← readEntropy) with
    | .error fault => return ({} : Report).failed fault
    | .ok d => return d.finish options (← readLines options.input)
  | .check path key => do
    return runCheck (← readFile path) key (← readEntropy)
  | .info path => do
    return runInfo path (← readFile path)

/-- Prints what a report says. -/
def emit (report : Report) : IO UInt32 := do
  IO.print report.stdout
  (← IO.getStdout).flush
  IO.eprint report.stderr
  (← IO.getStderr).flush
  return UInt32.ofNat report.code

/-- Writes a file to its end; a handle that is only closed does not say whether all was written. -/
def writeFile (path : String) (bs : Bytes) : IO (Except SystemFault Unit) :=
  attempt do
    let handle ← IO.FS.Handle.mk path .write
    handle.write ⟨bs.toArray⟩
    handle.flush

/-- Runs a command and writes the file that it saves. -/
def perform (command : Command) : IO UInt32 := do
  let report ← report command
  let code ← emit report
  match report.save with
  | none => return code
  | some (path, bs) => emit (.ofSave path (← writeFile path bs))

end CuckooFilter.CommandLine

open CuckooFilter.CommandLine in
def main (arguments : List String) : IO UInt32 :=
  match Command.parse arguments with
  | .ok command => perform command
  | .error usage => emit usage.report
