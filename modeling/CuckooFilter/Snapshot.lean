import CuckooFilter.Error
import CuckooFilter.Ring
import CuckooFilter.Table.Image

/-!
# Snapshots

A snapshot holds what is needed to build a filter of the same shape again: the kind of filter, its
capacity and interval, beside the image of its table, the number of entries and where an expiring
filter stands in time. A snapshot that does not fit a filter is refused with the reason.
-/

namespace CuckooFilter

/-- The two kinds of filter. -/
inductive FilterKind
  | plain
  | expiring
  deriving DecidableEq

def FilterKind.text : FilterKind → String
  | .plain => "Plain"
  | .expiring => "Expiring"

structure Snapshot where
  magic : Vector UInt8 4
  version : Nat
  kind : FilterKind
  /-- The number of slots. -/
  capacity : Nat
  intervalMinutes : Option Nat
  /-- The number of entries. -/
  count : Nat
  ring : Option Ring
  /-- The image of the table. -/
  data : Bytes
  deriving DecidableEq

/-- The bytes that every snapshot begins with: `CKF` and a zero. -/
def snapshotMagic : Vector UInt8 4 := #v[0x43, 0x4b, 0x46, 0]

/-- Why a snapshot does not fit a filter. -/
inductive Mismatch
  | kind (found expected : FilterKind)
  | capacity (found expected : Nat)
  | interval (found : Option Nat) (expected : Nat)
  /-- The ring does not stand on an interval boundary with its position. -/
  | cursor (position : Position) (time : Nat)
  /-- The image was not restored. -/
  | rejected (status : RestoreStatus)
  deriving DecidableEq

namespace Mismatch

def message : Mismatch → String
  | .kind found expected => "snapshot of a " ++ found.text ++ " filter, expected " ++ expected.text
  | .capacity found expected =>
    "snapshot capacity " ++ toString found ++ ", filter capacity " ++ toString expected
  | .interval found expected =>
    "snapshot interval " ++ Text.optional (found.map fun minutes => toString minutes) ++
      " minutes, filter interval " ++ toString expected ++ " minutes"
  | .cursor position time =>
    "inconsistent aging cursor: position " ++ toString position.toNat ++ " at " ++ toString time ++ "s"
  | .rejected status => "snapshot rejected: " ++ status.text

def toError (m : Mismatch) : FilterError :=
  .snapshotMismatch m.message

end Mismatch

/-- Whether the snapshot is of a filter of the given kind and number of slots. -/
def Snapshot.checkShape (s : Snapshot) (kind : FilterKind) (capacity : Nat) : Except Mismatch Unit :=
  if s.kind ≠ kind then .error (.kind s.kind kind)
  else if s.capacity ≠ capacity then .error (.capacity s.capacity capacity)
  else .ok ()

end CuckooFilter
