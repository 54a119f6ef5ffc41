import CuckooFilter.Error
import CuckooFilter.Text.Decimal

/-!
# What ends a run early

A run fails when a file cannot be used, when its input is malformed, or when a filter cannot be made.
The failure is shown on one line, as a structured text.
-/

namespace CuckooFilter.CommandLine

/-- A failure that the operating system reports. -/
structure SystemFault where
  code : Nat
  kind : String
  message : String
  deriving DecidableEq

namespace SystemFault

def notFound : SystemFault := ⟨2, "NotFound", "No such file or directory"⟩

def permissionDenied : SystemFault := ⟨13, "PermissionDenied", "Permission denied"⟩

def notADirectory : SystemFault := ⟨20, "NotADirectory", "Not a directory"⟩

def isADirectory : SystemFault := ⟨21, "IsADirectory", "Is a directory"⟩

def storageFull : SystemFault := ⟨28, "StorageFull", "No space left on device"⟩

def readOnly : SystemFault := ⟨30, "ReadOnlyFilesystem", "Read-only file system"⟩

def nameTooLong : SystemFault := ⟨36, "InvalidFilename", "File name too long"⟩

/-- The failures that have a kind of their own. -/
def known : List SystemFault :=
  [notFound, permissionDenied, notADirectory, isADirectory, storageFull, readOnly, nameTooLong]

def text (f : SystemFault) : String :=
  Text.record "Os"
    [("code", toString f.code), ("kind", f.kind), ("message", Text.quoted f.message)]

end SystemFault

inductive Fault
  | system (fault : SystemFault)
  /-- A line is not UTF-8. -/
  | notUtf8
  | filter (error : FilterError)
  /-- The snapshot has no interval. -/
  | notExpiring
  /-- A line has no tab behind a timestamp. -/
  | noTimestamp (line : String)
  /-- What stands before the tab is not a timestamp. -/
  | badTimestamp (field : String) (reason : Decimal.Fault)
  deriving DecidableEq

def Fault.text : Fault → String
  | .system fault => fault.text
  | .notUtf8 =>
    Text.record "Error"
      [("kind", "InvalidData"), ("message", Text.quoted "stream did not contain valid UTF-8")]
  | .filter error => error.text
  | .notExpiring => Text.quoted "snapshot is not from an expiring filter"
  | .noTimestamp line => Text.quoted ("expected `<timestamp_ns>\\t<key>`: " ++ Text.quoted line)
  | .badTimestamp field reason =>
    Text.quoted ("bad timestamp " ++ Text.quoted field ++ ": " ++ reason.message)

end CuckooFilter.CommandLine
