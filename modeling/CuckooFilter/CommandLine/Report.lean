import CuckooFilter.CommandLine.Inspect

/-!
# Runs and their reports

A run is a function of its arguments and of what it finds around it: the files it reads, the lines of
its input with the time each was read, and a word to seed generators with. Its report says what is
printed, how it ends, and which file is to be written. `Report.ofSave` says what came of that.
-/

namespace CuckooFilter.CommandLine

/-- What a run finds around it. -/
structure Surroundings where
  /-- The contents of a file. -/
  file : String → Except SystemFault Bytes
  /-- The lines of a file, or of standard input, each with the time in nanoseconds it was read. -/
  lines : Option String → Except SystemFault (List (Nat × Bytes))
  entropy : UInt64

/-- What a run prints, the code it ends with, and the file it writes. -/
structure Report where
  stdout : String := ""
  stderr : String := ""
  code : Nat := 0
  save : Option (String × Bytes) := none

namespace Report

/-- The report with a failure at its end. -/
def failed (r : Report) (fault : Fault) : Report :=
  { r with stderr := r.stderr ++ "Error: " ++ fault.text ++ "\n", code := 1 }

def ofExcept : Except Fault String → Report
  | .error fault => ({} : Report).failed fault
  | .ok stdout => { stdout }

/-- What follows once the file at `path` was written, or could not be. -/
def ofSave (path : String) : Except SystemFault Unit → Report
  | .error fault => ({} : Report).failed (.system fault)
  | .ok () => { stderr := "Snapshot written to " ++ path ++ "\n" }

end Report

def usageText : String :=
  "Usage: ckf <COMMAND>\n\nCommands:\n" ++
    "  dedupe  Print each line of the input the first time it is seen\n" ++
    "  check   Check whether a key is present in a snapshot\n" ++
    "  info    Display information about a snapshot\n"

def versionText : String := "expiring-cuckoo-rs 0.1.0\n"

def Usage.report : Usage → Report
  | .help => { stdout := usageText }
  | .version => { stdout := versionText }
  | .invalid => { stderr := usageText, code := 2 }

/-- The report on a run that has its filter and its input. -/
def Dedupe.finish (d : Dedupe) (options : DedupeOptions)
    (lines : Except SystemFault (List (Nat × Bytes))) : Report :=
  match lines with
  | .error fault => ({} : Report).failed (.system fault)
  | .ok lines =>
    match d.takeLines options.timestamps lines with
    | (d, some fault) => ({ stdout := d.output } : Report).failed fault
    | (d, none) =>
      { stdout := d.output
        stderr := d.summary
        save := options.save.map fun path => (path, d.filter.snapshot.encode) }

/-- Removes duplicate lines. A filter is made before the input is opened. -/
def runDedupe (options : DedupeOptions) (around : Surroundings) : Report :=
  match Dedupe.start options (options.load.map around.file) around.entropy with
  | .error fault => ({} : Report).failed fault
  | .ok d => d.finish options (around.lines options.input)

/-- Looks a key up in the snapshot that a file holds. -/
def runCheck (contents : Except SystemFault Bytes) (key : String) (entropy : UInt64) : Report :=
  .ofExcept do checkText (← readSnapshot contents) key entropy

/-- Describes the snapshot that the file `path` holds. -/
def runInfo (path : String) (contents : Except SystemFault Bytes) : Report :=
  .ofExcept do return infoText path (← readSnapshot contents)

/-- Runs a command. -/
def runCommand (command : Command) (around : Surroundings) : Report :=
  match command with
  | .dedupe options => runDedupe options around
  | .check path key => runCheck (around.file path) key around.entropy
  | .info path => runInfo path (around.file path)

end CuckooFilter.CommandLine
