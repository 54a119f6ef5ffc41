import CuckooFilter.Bytes
import CuckooFilter.Binary64

/-!
# Keys and their canonical bytes

Text and byte strings are hashed as they are. A number is hashed through 17 bytes that depend on its
value alone: integers in the range of 128-bit words, whether given as an integer or as a floating
point number, as a zero byte and the word; every other floating-point number as a one byte, its
pattern and zeros. All patterns that denote no number count as one.
-/

namespace CuckooFilter

/-- What can be added to a filter. -/
inductive Key
  | bytes (bs : Bytes)
  | text (s : String)
  | integer (n : Int)
  | float64 (bits : UInt64)
  | float32 (bits : UInt32)

namespace Key

/-- An integer as a zero byte and the 16 bytes of its two's complement. -/
def integral (n : Int) : Bytes :=
  0 :: littleEndian 16 (BitVec.ofInt 128 n).toNat

/-- A pattern as a one byte, its eight bytes and eight zeros. -/
def fractional (bits : UInt64) : Bytes :=
  1 :: (littleEndian 8 bits.toNat ++ List.replicate 8 0)

/-- The pattern that stands for all patterns denoting no number. -/
def canonicalNaN : UInt64 := 0x7ff8000000000000

/-- The canonical bytes of a floating-point number. -/
def float (bits : UInt64) : Bytes :=
  let value := Binary64.decode bits
  let other := fractional (if value = .nan then canonicalNaN else bits)
  match value.integer? with
  | some n => if (BitVec.ofInt 128 n).toInt = n then integral n else other
  | none => other

/-- The bytes that a key is hashed by. -/
def encoding : Key → Bytes
  | .bytes bs => bs
  | .text s => s.toUTF8.data.toList
  | .integer n => integral n
  | .float64 bits => float bits
  | .float32 bits => float (Binary64.widen bits)

@[simp] theorem length_integral (n : Int) : (integral n).length = 17 := by
  simp [integral]

@[simp] theorem length_fractional (bits : UInt64) : (fractional bits).length = 17 := by
  simp [fractional]

end Key

end CuckooFilter
