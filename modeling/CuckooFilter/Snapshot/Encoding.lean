import CuckooFilter.Snapshot

/-!
# The stored form of a snapshot

The fields of a snapshot follow one another without names. A number takes one byte if it is below
251; else a marker byte says whether two, four or eight little-endian bytes follow, as few as hold it.
An optional value is preceded by a byte one, and its absence is a byte zero. The image comes last,
preceded by its length.
-/

namespace CuckooFilter

/-- The shortest stored form of a number of at most 64 bits. -/
def varint (n : Nat) : Bytes :=
  if n < 251 then [UInt8.ofNat n]
  else if n < UInt16.size then 251 :: littleEndian 2 n
  else if n < UInt32.size then 252 :: littleEndian 4 n
  else 253 :: littleEndian 8 n

/-- The stored form of an optional value. -/
def optionBytes {α : Type} (encode : α → Bytes) : Option α → Bytes
  | none => [0]
  | some value => 1 :: encode value

def positionBytes (position : Position) : Bytes :=
  [UInt8.ofBitVec position]

def FilterKind.index : FilterKind → Nat
  | .plain => 0
  | .expiring => 1

def Ring.encode (r : Ring) : Bytes :=
  positionBytes r.current ++ varint r.time ++ optionBytes positionBytes r.lru

namespace Snapshot

/-- Whether every number of the snapshot fits its field: 32 bits for the version and the interval, 64
for the capacity, the count, the time of the ring and the length of the image. -/
def Fits (s : Snapshot) : Prop :=
  s.version < UInt32.size ∧ s.capacity < UInt64.size ∧
    (∀ minutes ∈ s.intervalMinutes, minutes < UInt32.size) ∧ s.count < UInt64.size ∧
    (∀ r ∈ s.ring, r.time < UInt64.size) ∧ s.data.length < UInt64.size

/-- The stored form of a snapshot. -/
def encode (s : Snapshot) : Bytes :=
  s.magic.toList ++ (varint s.version ++ (varint s.kind.index ++ (varint s.capacity ++
    (optionBytes varint s.intervalMinutes ++ (varint s.count ++ (optionBytes Ring.encode s.ring ++
      (varint s.data.length ++ s.data)))))))

end Snapshot

end CuckooFilter
