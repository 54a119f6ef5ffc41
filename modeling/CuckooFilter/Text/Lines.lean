import CuckooFilter.Bytes

/-!
# Lines of a byte string

A line ends with a line feed, which is not part of it, nor is one carriage return before it. What
follows the last line feed is a line if it is not empty.
-/

namespace CuckooFilter.Text

def lineFeed : UInt8 := 10

def carriageReturn : UInt8 := 13

/-- A line without its end, from its bytes in reverse order. -/
def endLine : Bytes → Bytes
  | [] => []
  | b :: reversed => if b = carriageReturn then reversed.reverse else (b :: reversed).reverse

/-- Splits bytes into lines, onto those already split, the latest first; `reversed` is the line begun. -/
def splitLines : Bytes → (reversed : Bytes) → (split : List Bytes) → List Bytes
  | [], [], split => split.reverse
  | [], reversed, split => (reversed.reverse :: split).reverse
  | b :: bs, reversed, split =>
    if b = lineFeed then splitLines bs [] (endLine reversed :: split)
    else splitLines bs (b :: reversed) split

/-- The lines of a byte string. -/
def lines (bs : Bytes) : List Bytes :=
  splitLines bs [] []

end CuckooFilter.Text
