/-!
# Decimal text of numbers

`fixed` writes a quotient of naturals with a fixed number of places, a half going to the even
neighbour. `parse` reads a natural below a bound and says what is wrong with a text that is none.
-/

namespace CuckooFilter.Decimal

/-- The natural nearest to `num / den`; of two equally near ones, the even one. -/
def roundHalfEven (num den : Nat) : Nat :=
  let quotient := num / den
  let twice := 2 * (num % den)
  if twice < den then quotient
  else if den < twice then quotient + 1
  else quotient + quotient % 2

/-- The quotient `num / den` with `places` digits after the point. -/
def fixed (places num den : Nat) : String :=
  let unit := Nat.pow 10 places
  let scaled := roundHalfEven (num * unit) den
  let fraction := toString (scaled % unit)
  toString (scaled / unit) ++ "." ++
    "".pushn '0' (places - fraction.length) ++ fraction

/-- Why a text is not a natural number. -/
inductive Fault
  | empty
  | invalidDigit
  | tooLarge
  deriving DecidableEq

def Fault.message : Fault → String
  | .empty => "cannot parse integer from empty string"
  | .invalidDigit => "invalid digit found in string"
  | .tooLarge => "number too large to fit in target type"

def digit? (c : Char) : Option Nat :=
  if '0' ≤ c ∧ c ≤ '9' then some (c.toNat - '0'.toNat) else none

/-- Reads digits onto `n`. The first digit that leads to `bound` or beyond ends the reading, even
if no digit follows it. -/
def digits (bound : Nat) : (n : Nat) → List Char → Except Fault Nat
  | n, [] => .ok n
  | n, c :: cs =>
    match digit? c with
    | none => .error .invalidDigit
    | some d => if bound ≤ 10 * n + d then .error .tooLarge else digits bound (10 * n + d) cs

/-- The natural below `bound` written in decimal; a plus sign may precede it. -/
def parse (bound : Nat) (s : String) : Except Fault Nat :=
  match s.toList with
  | [] => .error .empty
  | ['+'] => .error .invalidDigit
  | '+' :: cs => digits bound 0 cs
  | cs => digits bound 0 cs

end CuckooFilter.Decimal
