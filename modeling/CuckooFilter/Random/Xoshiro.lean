import CuckooFilter.Random

/-!
# The generator xoshiro256++

Four words of state, filled from one 64-bit seed by successive outputs of SplitMix64.
-/

namespace CuckooFilter

/-- The state of the generator. -/
structure Xoshiro where
  s₀ : UInt64
  s₁ : UInt64
  s₂ : UInt64
  s₃ : UInt64

namespace Xoshiro

/-- What SplitMix64 adds to its state for each output. -/
def increment : UInt64 := 0x9e3779b97f4a7c15

/-- The output of SplitMix64 in state `z`. -/
def splitMix (z : UInt64) : UInt64 :=
  let z := (z ^^^ (z >>> 30)) * 0xbf58476d1ce4e5b9
  let z := (z ^^^ (z >>> 27)) * 0x94d049bb133111eb
  z ^^^ (z >>> 31)

/-- The generator started from `seed`. -/
def ofSeed (seed : UInt64) : Xoshiro where
  s₀ := splitMix (seed + increment)
  s₁ := splitMix (seed + 2 * increment)
  s₂ := splitMix (seed + 3 * increment)
  s₃ := splitMix (seed + 4 * increment)

/-- One output and the state after it. -/
def step (x : Xoshiro) : UInt64 × Xoshiro :=
  let word := rotateLeft (x.s₀ + x.s₃) 23 + x.s₀
  let s₂ := x.s₂ ^^^ x.s₀
  let s₃ := x.s₃ ^^^ x.s₁
  (word, { s₀ := x.s₀ ^^^ s₃, s₁ := x.s₁ ^^^ s₂, s₂ := s₂ ^^^ (x.s₁ <<< 17), s₃ := rotateLeft s₃ 45 })

instance : WordSource Xoshiro where
  next := step

end Xoshiro

end CuckooFilter
