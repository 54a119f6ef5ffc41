import CuckooFilter.Text.Unprinted

/-!
# Quoted text

Text between double quotes, on one line: quotes and backslashes are preceded by a backslash, tab,
line feed, carriage return and the zero character have a letter of their own, and characters that
would not show are written by number.
-/

namespace CuckooFilter.Text

/-- A number in base sixteen. -/
def hexadecimal (n : Nat) : String :=
  String.ofList (Nat.toDigits 16 n)

/-- A character as it stands in quoted text. -/
def escape (c : Char) : String :=
  if c = '\x00' then "\\0"
  else if c = '\t' then "\\t"
  else if c = '\r' then "\\r"
  else if c = '\n' then "\\n"
  else if c = '"' then "\\\""
  else if c = '\\' then "\\\\"
  else if unprinted c then "\\u\x7b" ++ hexadecimal c.toNat ++ "\x7d"
  else c.toString

/-- A text in double quotes. -/
def quoted (s : String) : String :=
  "\"" ++ String.join (s.toList.map escape) ++ "\""

end CuckooFilter.Text
