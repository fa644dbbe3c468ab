/-!
# Descriptions

A value described for a person: the name of what it is, then its fields in
braces, each with its name.  Lists stand in brackets.
-/

namespace Chip8.Description

/-- A described list. -/
def list (items : List String) : String := "[" ++ ", ".intercalate items ++ "]"

/-- A described value with named fields. -/
def record (name : String) (fields : List (String × String)) : String :=
  name ++ " \x7b " ++ ", ".intercalate (fields.map fun (key, value) => key ++ ": " ++ value)
    ++ " \x7d"

example : record "Point" [("x", "1"), ("y", "2")] = "Point \x7b x: 1, y: 2 \x7d" := by decide

end Chip8.Description
