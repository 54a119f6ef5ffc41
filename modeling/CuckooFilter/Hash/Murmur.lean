import CuckooFilter.Hash

/-!
# MurmurHash3, 128 bits for 64-bit machines

The input is consumed in blocks of two words, the rest is padded with zeros, and the two lanes are
mixed at the end. Filters use the first of the two resulting words.
-/

namespace CuckooFilter.Murmur

/-- The two running words of the hash. -/
structure Lanes where
  fst : UInt64
  snd : UInt64

/-- The word of up to eight bytes, least significant first. -/
def word (bs : Bytes) : UInt64 :=
  bs.foldr (fun b w => (w <<< 8) ||| b.toUInt64) 0

def multiplier₁ : UInt64 := 0x87c37b91114253d5

def multiplier₂ : UInt64 := 0x4cf5ad432745937f

/-- A word of input as it enters the first lane. -/
def scramble₁ (k : UInt64) : UInt64 :=
  rotateLeft (k * multiplier₁) 31 * multiplier₂

/-- A word of input as it enters the second lane. -/
def scramble₂ (k : UInt64) : UInt64 :=
  rotateLeft (k * multiplier₂) 33 * multiplier₁

/-- The lanes after a whole block of the words `k₁` and `k₂`. -/
def block (h : Lanes) (k₁ k₂ : UInt64) : Lanes :=
  let fst := (rotateLeft (h.fst ^^^ scramble₁ k₁) 27 + h.snd) * 5 + 0x52dce729
  let snd := (rotateLeft (h.snd ^^^ scramble₂ k₂) 31 + fst) * 5 + 0x38495ab5
  ⟨fst, snd⟩

/-- The lanes after the last, incomplete block; missing bytes count as zero. -/
def tail (h : Lanes) (bs : Bytes) : Lanes :=
  ⟨h.fst ^^^ scramble₁ (word (bs.take 8)), h.snd ^^^ scramble₂ (word (bs.drop 8))⟩

/-- Spreads every bit of a word over the whole of it. -/
def avalanche (k : UInt64) : UInt64 :=
  let k := (k ^^^ (k >>> 33)) * 0xff51afd7ed558ccd
  let k := (k ^^^ (k >>> 33)) * 0xc4ceb9fe1a85ec53
  k ^^^ (k >>> 33)

/-- Mixes the length of the input and the two lanes into each other. -/
def finish (h : Lanes) (length : Nat) : Lanes :=
  let n := UInt64.ofNat length
  let fst := (h.fst ^^^ n) + (h.snd ^^^ n)
  let snd := (h.snd ^^^ n) + fst
  let fst := avalanche fst
  let snd := avalanche snd
  ⟨fst + snd, fst + snd + snd⟩

/-- The lanes after `blocks` whole blocks of input and the rest of it. -/
def absorb : (blocks : Nat) → Lanes → Bytes → Lanes
  | 0, h, bs => tail h bs
  | blocks + 1, h, bs =>
    absorb blocks (block h (word (bs.take 8)) (word ((bs.drop 8).take 8))) (bs.drop 16)

/-- The first word of the hash of `bs`. -/
def hash : HashFunction := fun bs seed =>
  (finish (absorb (bs.length / 16) ⟨seed.toUInt64, seed.toUInt64⟩ bs) bs.length).fst

end CuckooFilter.Murmur
