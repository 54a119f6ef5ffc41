import CuckooFilter.Event
import CuckooFilter.Table

/-!
# Images of a table

The image of a table is its buckets in order; a bucket is its four fingerprints and then its four
tags, each in little-endian bytes. Any byte string of the right length is the image of exactly one
bucket array. An image that is restored may carry the version of its layout; one with another
version, or of another length, is refused and changes nothing.
-/

namespace CuckooFilter

/-- The version of the image layout. -/
def formatVersion : Nat := 1

/-- What became of an image to be restored. -/
inductive RestoreStatus
  | restored
  | sizeMismatch (expected found : Nat)
  | unsupportedVersion (version : Nat)
  deriving DecidableEq

namespace RestoreStatus

def isRestored : RestoreStatus → Bool
  | .restored => true
  | .sizeMismatch .. | .unsupportedVersion _ => false

def text : RestoreStatus → String
  | .restored => "Restored"
  | .sizeMismatch expected found =>
    Text.record "SizeMismatch" [("expected", toString expected), ("found", toString found)]
  | .unsupportedVersion version => Text.applied "UnsupportedVersion" (toString version)

end RestoreStatus

namespace Bucket

variable {w v : Nat}

/-- The length of a bucket's image. -/
def imageSize (w v : Nat) : Nat :=
  bucketSize * (w / 8 + v / 8)

def toBytes (b : Bucket w v) : Bytes :=
  b.slots.toList.flatMap (fun s => littleEndian (w / 8) s.fingerprint.toNat) ++
    b.slots.toList.flatMap (fun s => littleEndian (v / 8) s.tag.toNat)

/-- The bits stored in field number `i` of the fields of `bits` bits that `bytes` begins with. -/
def field (bits i : Nat) (bytes : Bytes) : BitVec bits :=
  BitVec.ofNat bits (ofLittleEndian ((bytes.drop (i * (bits / 8))).take (bits / 8)))

/-- The bucket whose image `bytes` begins with. -/
def ofBytes (bytes : Bytes) : Bucket w v :=
  let tags := bytes.drop (bucketSize * (w / 8))
  ⟨Vector.ofFn fun i => ⟨field w i bytes, field v i tags⟩⟩

/-- Reads the images of `count` buckets onto those already read. -/
def readArray : (count : Nat) → Bytes → Array (Bucket w v) → Array (Bucket w v)
  | 0, _, read => read
  | count + 1, bytes, read =>
    let bucket : Bucket w v := ofBytes (bytes.take (imageSize w v))
    readArray count (bytes.drop (imageSize w v)) (read.push bucket)

end Bucket

namespace Table

variable {w v : Nat} {R : Type}

/-- The length of the table's image. -/
def byteSize (t : Table w v R) : Nat :=
  t.size * Bucket.imageSize w v

def toBytes (t : Table w v R) : Bytes :=
  t.buckets.toList.flatMap Bucket.toBytes

/-- The table with the buckets of an image, if that has the right length. -/
def load? (t : Table w v R) (bytes : Bytes) : Option (Table w v R) :=
  if bytes.length = t.byteSize then some { t with buckets := Bucket.readArray t.size bytes #[] }
  else none

/-- Restores an image. An image without a version is taken as one of the right version. -/
def restore (t : Table w v R) (bytes : Bytes) (version : Option Nat) :
    Step (Table w v R) RestoreStatus :=
  match version.filter (· != formatVersion) with
  | some version =>
    { state := t, answer := .unsupportedVersion version, events := [.unsupportedVersion version] }
  | none =>
    match t.load? bytes with
    | some t => { state := t, answer := .restored }
    | none =>
      { state := t
        answer := .sizeMismatch t.byteSize bytes.length
        events := [.wrongSize t.byteSize bytes.length] }

end Table

end CuckooFilter
