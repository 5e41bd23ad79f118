/-!
# Layout of composite values

How messages show lists, pairs and records of values: elements are separated by a comma and a
blank, lists stand in square brackets, pairs in parentheses, records in braces after their name.
-/

namespace TensorGraph.Text

/-- Elements in brackets: `[2, 3]`, and `[]` for none. -/
def bracketed (items : List String) : String :=
  "[" ++ String.intercalate ", " items ++ "]"

def list {α : Type} [ToString α] (items : List α) : String :=
  bracketed (items.map toString)

/-- Two parts in parentheses: `(0, 1)`. -/
def pair (first second : String) : String :=
  "(" ++ first ++ ", " ++ second ++ ")"

/-- A record with named fields: the name, then `field: value` items in braces. -/
def record (name : String) (fields : List (String × String)) : String :=
  name ++ " \x7b " ++ String.intercalate ", " (fields.map fun field => field.1 ++ ": " ++ field.2)
    ++ " \x7d"

def truth (b : Bool) : String := if b then "true" else "false"

end TensorGraph.Text
