import CuckooFilter.Hash

/-!
# FNV-1a, 64 bits

Each byte is xored into the running word, which is then multiplied by the FNV prime. The seed is
xored into the offset basis.
-/

namespace CuckooFilter.Fnv

def offsetBasis : UInt64 := 0xcbf29ce484222325

def prime : UInt64 := 0x100000001b3

def hash : HashFunction := fun bs seed =>
  bs.foldl (fun h b => (h ^^^ b.toUInt64) * prime) (offsetBasis ^^^ seed.toUInt64)

end CuckooFilter.Fnv
