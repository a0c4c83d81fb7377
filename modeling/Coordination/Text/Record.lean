/-!
# Structured values as text

The one-line form of a structured value: records with named fields, tuples, lists and optional
values, each built from the forms of its parts.
-/

namespace Coordination.Text

/-- Texts with a comma and a blank between them. -/
def commaSeparated (items : List String) : String := ", ".intercalate items

/-- A record: its name and, between braces, its fields. -/
def record (name : String) (fields : List (String × String)) : String :=
  if fields.isEmpty then name
  else name ++ " \x7b " ++ commaSeparated (fields.map fun f => f.1 ++ ": " ++ f.2) ++ " \x7d"

/-- A tuple: its name and, between parentheses, its components. -/
def tuple (name : String) (items : List String) : String :=
  name ++ "(" ++ commaSeparated items ++ ")"

/-- A list between square brackets. -/
def listing (items : List String) : String := "[" ++ commaSeparated items ++ "]"

/-- An optional value, present or absent. -/
def optional : Option String → String
  | none => "None"
  | some t => tuple "Some" [t]

/-- A truth value. -/
def truth (b : Bool) : String := if b then "true" else "false"

end Coordination.Text
