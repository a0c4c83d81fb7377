import Coordination.Text.Json.Basic

/-!
# Typed reading

Reading a document as a value of a fixed shape. A record may be an object, its fields in any order
and each at most once, or an array of its fields in their order. A choice may be its name, or an
object with that one name and the value null. An integer has neither point nor exponent.
-/

namespace Coordination.Text.Json

/-- The text of a string. -/
def text? : Json → Option String
  | .string s => s.text?
  | _ => none

/-- A truth value. -/
def bool? : Json → Option Bool
  | .bool b => some b
  | _ => none

/-- A natural number up to `limit`. -/
def natural? (limit : Nat) : Json → Option Nat
  | .number n => n.natural?.filter (· ≤ limit)
  | _ => none

/-- A value that may be null. -/
def nullable? {α : Type} (f : Json → Option α) : Json → Option (Option α)
  | .null => some none
  | v => (f v).map some

/-- The items of an array. -/
def items? : Json → Option (List Json)
  | .array items => some items
  | _ => none

/-- The choice with the name that the document gives. -/
def choice? {α : Type} (choices : List (String × α)) : Json → Option α
  | .string s => s.text?.bind fun name => choices.lookup name
  | .object [(k, .null)] => k.text?.bind fun name => choices.lookup name
  | _ => none

/-- The names and values of an object's members; none when a name denotes no text. -/
def namedMembers? : List (Literal × Json) → Option (List (String × Json))
  | [] => some []
  | (k, v) :: ms =>
    match k.text?, namedMembers? ms with
    | some name, some rest => some ((name, v) :: rest)
    | _, _ => none

/-- The fields of a record by position: those named, in the order of the names, each with its value
if it is given. With `closed`, an object may have no other members. -/
def fields? (closed : Bool) (names : List String) : Json → Option (List (Option Json))
  | .array items =>
    if names.length < items.length then none
    else some (items.map some ++ List.replicate (names.length - items.length) none)
  | .object members =>
    match namedMembers? members with
    | none => none
    | some ms =>
      if closed && ms.any (fun m => !names.contains m.1) then none
      else names.mapM fun name =>
        match ms.filter (·.1 == name) with
        | [] => some none
        | [m] => some (some m.2)
        | _ => none
  | _ => none

/-- A field that must be given. -/
def required {α : Type} (f : Json → Option α) (v : Option Json) : Option α := v.bind f

/-- A field with a value to fall back on. -/
def withDefault {α : Type} (fallback : α) (f : Json → Option α) : Option Json → Option α
  | none => some fallback
  | some v => f v

/-- A record as a document, fields without a value left out. -/
def ofFields (fields : List (String × Option Json)) : Json :=
  .object (fields.filterMap fun f => f.2.map fun v => (Literal.ofText f.1, v))

end Coordination.Text.Json
