import CuckooFilter.Binary64

/-!
# Sizes for people

A size below 1024 is a whole number of bytes. Larger ones are given in kilo-, mega- or gigabytes of
1024, 1024² and 1024³ bytes, with two places, from the size rounded to 53 bits.
-/

namespace CuckooFilter

/-- The text of a size in bytes. -/
def byteSizeText (bytes : Nat) : String :=
  let value := Binary64.roundNat bytes
  if bytes < 1024 then toString bytes ++ " bytes"
  else if value < 1 <<< 20 then Decimal.fixed 2 value (1 <<< 10) ++ " KB"
  else if value < 1 <<< 30 then Decimal.fixed 2 value (1 <<< 20) ++ " MB"
  else Decimal.fixed 2 value (1 <<< 30) ++ " GB"

end CuckooFilter
