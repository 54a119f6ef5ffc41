import CuckooFilter.Snapshot.Encoding

/-!
# Reading snapshots

A reader takes a value off the front of a byte string and leaves the rest. The fields are read in
the order of the stored form; a number need not be stored in its shortest form, what follows the
image is ignored, and the magic is looked at last. The first fault ends the reading.
-/

namespace CuckooFilter

/-- The widths of integers, as faults name them. -/
inductive IntegerWidth
  | u32
  | u64
  | u128
  | size
  | reserved
  deriving DecidableEq

def IntegerWidth.text : IntegerWidth → String
  | .u32 => "U32"
  | .u64 => "U64"
  | .u128 => "U128"
  | .size => "Usize"
  | .reserved => "Reserved"

/-- Why bytes are not a snapshot. -/
inductive DecodeFault
  /-- The bytes end `additional` bytes short of the end of what is read. -/
  | unexpectedEnd (additional : Nat)
  /-- A number is stored in more bytes than its field has. -/
  | integerWidth (expected found : IntegerWidth)
  /-- The byte before an optional value is neither zero nor one. -/
  | optionMarker (found : Nat)
  | unknownKind (found : Nat)
  | wrongMagic (found : Vector UInt8 4)
  deriving DecidableEq

namespace DecodeFault

def message : DecodeFault → String
  | .unexpectedEnd additional => Text.record "UnexpectedEnd" [("additional", toString additional)]
  | .integerWidth expected found =>
    Text.record "InvalidIntegerType" [("expected", expected.text), ("found", found.text)]
  | .optionMarker found =>
    Text.record "UnexpectedVariant"
      [("type_name", "\"Option<T>\""),
        ("allowed", Text.record "Range" [("min", "0"), ("max", "1")]),
        ("found", toString found)]
  | .unknownKind found =>
    Text.applied "OtherString"
      ("\"invalid value: integer `" ++ toString found ++ "`, expected variant index 0 <= i < 2\"")
  | .wrongMagic found =>
    "unexpected snapshot magic " ++ Text.listed (found.toList.map fun b => toString b.toNat)

def toError (fault : DecodeFault) : FilterError :=
  .serialization fault.message

end DecodeFault

/-- Takes a value off the front of a byte string. -/
abbrev Reader := StateT Bytes (Except DecodeFault)

namespace Reader

def fail {α : Type} (fault : DecodeFault) : Reader α := fun _ =>
  .error fault

/-- One byte. -/
def byte : Reader UInt8
  | [] => .error (.unexpectedEnd 1)
  | b :: bs => .ok (b, bs)

/-- The number in `width` little-endian bytes. -/
def word (width : Nat) : Reader Nat := fun bs =>
  let field := bs.take width
  if field.length < width then .error (.unexpectedEnd (width - field.length))
  else .ok (ofLittleEndian field, bs.drop width)

/-- What a stored number is read as: a number of 32 bits, one of 64 bits, or a length. -/
inductive Field
  | narrow
  | wide
  | length
  deriving DecidableEq

/-- The width that a fault names as expected, with the bytes `rest` behind the marker. A wide field is
read whole when eight bytes are there, and then counts as a number of 32 bits. -/
def Field.expected (field : Field) (rest : Bytes) : IntegerWidth :=
  match field with
  | .narrow => .u32
  | .length => .size
  | .wide => if (rest.take 8).length = 8 then .u32 else .u64

/-- A number with its marker. -/
def varint (field : Field) : Reader Nat := do
  let marker ← byte
  let refuse (found : IntegerWidth) : Reader Nat := fun rest =>
    .error (.integerWidth (field.expected rest) found)
  if marker < 251 then return marker.toNat
  else if marker = 251 then word 2
  else if marker = 252 then word 4
  else if marker = 253 then if field = .narrow then refuse .u64 else word 8
  else if marker = 254 then refuse .u128
  else refuse .reserved

/-- A value that may be missing. -/
def option {α : Type} (value : Reader α) : Reader (Option α) := do
  let marker ← byte
  if marker = 0 then return none
  else if marker = 1 then return some (← value)
  else fail (.optionMarker marker.toNat)

def position : Reader Position := do
  return (← byte).toBitVec

def magic : Reader (Vector UInt8 4) := do
  let b₀ ← byte
  let b₁ ← byte
  let b₂ ← byte
  let b₃ ← byte
  return #v[b₀, b₁, b₂, b₃]

def kind : Reader FilterKind := do
  let index ← varint .narrow
  if index = 0 then return .plain
  else if index = 1 then return .expiring
  else fail (.unknownKind index)

def ring : Reader Ring := do
  let current ← position
  let time ← varint .wide
  let lru ← option position
  return { current, time, lru }

/-- The next `length` bytes. They are read one by one, so a shortage is always of one byte. -/
def bytes (length : Nat) : Reader Bytes := fun bs =>
  if bs.length < length then .error (.unexpectedEnd 1)
  else .ok (bs.take length, bs.drop length)

/-- The fields of a snapshot, whatever the magic. -/
def snapshot : Reader Snapshot := do
  let magic ← magic
  let version ← varint .narrow
  let kind ← kind
  let capacity ← varint .wide
  let intervalMinutes ← option (varint .narrow)
  let count ← varint .wide
  let ring ← option ring
  let data ← bytes (← varint .length)
  return { magic, version, kind, capacity, intervalMinutes, count, ring, data }

end Reader

/-- The snapshot that a byte string begins with. -/
def Snapshot.decode (bs : Bytes) : Except DecodeFault Snapshot :=
  match Reader.snapshot.run bs with
  | .error fault => .error fault
  | .ok (s, _) => if s.magic = snapshotMagic then .ok s else .error (.wrongMagic s.magic)

end CuckooFilter
