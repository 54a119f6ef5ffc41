/-!
# Text of structured values

Values are shown as `Name(argument)`, as `Name { field: value, ... }`, as `[item, ...]`, and optional
ones as `None` or `Some(value)`.
-/

namespace CuckooFilter.Text

/-- A name applied to one argument. -/
def applied (name argument : String) : String :=
  name ++ "(" ++ argument ++ ")"

/-- A name with its fields, in order. -/
def record (name : String) (fields : List (String × String)) : String :=
  name ++ " \x7b " ++ ", ".intercalate (fields.map fun (field, value) => field ++ ": " ++ value) ++
    " \x7d"

/-- The items of a list. -/
def listed (items : List String) : String :=
  "[" ++ ", ".intercalate items ++ "]"

/-- The text of a value that may be missing. -/
def optional : Option String → String
  | none => "None"
  | some text => applied "Some" text

end CuckooFilter.Text
