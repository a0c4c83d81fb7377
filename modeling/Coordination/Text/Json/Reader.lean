import Coordination.Text.Json.Token

/-!
# Reading a JSON document

The grammar over tokens, as a machine with a stack of open arrays and objects: every token either
opens, closes or extends the innermost of them. The machine takes one step per token, so reading
needs no bound on nesting, and a text is a document when the machine ends with one finished value.
-/

namespace Coordination.Text.Json

/-- An array or object that is still open, its parts so far in reverse order. -/
inductive Frame where
  | array (items : List Json)
  | object (members : List (Literal × Json)) (key : Literal)

/-- What may come next. -/
inductive Goal where
  /-- A value. -/
  | value
  /-- A value, or the end of the array just opened. -/
  | firstItem
  /-- A name, or the end of the object just opened. -/
  | firstKey
  /-- The name of a further member of an object with these members. -/
  | nextKey (members : List (Literal × Json))
  /-- The colon after a name. -/
  | colon (members : List (Literal × Json)) (key : Literal)
  /-- A comma or the end of the innermost array. -/
  | afterItem (items : List Json)
  /-- A comma or the end of the innermost object. -/
  | afterMember (members : List (Literal × Json))
  /-- Nothing more. -/
  | done (v : Json)

/-- The goal once the value `v` is read, given the frames around it. -/
def finish (v : Json) : List Frame → List Frame × Goal
  | [] => ([], .done v)
  | .array items :: frames => (frames, .afterItem (v :: items))
  | .object members key :: frames => (frames, .afterMember ((key, v) :: members))

/-- One token where a value is wanted. -/
def startValue (t : Token) (frames : List Frame) : Option (List Frame × Goal) :=
  match t with
  | .null => some (finish .null frames)
  | .bool b => some (finish (.bool b) frames)
  | .number n => some (finish (.number n) frames)
  | .string s => some (finish (.string s) frames)
  | .arrayOpen => some (frames, .firstItem)
  | .objectOpen => some (frames, .firstKey)
  | _ => none

/-- One step of the machine. -/
def step (t : Token) (frames : List Frame) : Goal → Option (List Frame × Goal)
  | .value => startValue t frames
  | .firstItem =>
    match t with
    | .arrayClose => some (finish (.array []) frames)
    | t => startValue t (.array [] :: frames)
  | .firstKey =>
    match t with
    | .objectClose => some (finish (.object []) frames)
    | .string key => some (frames, .colon [] key)
    | _ => none
  | .nextKey members =>
    match t with
    | .string key => some (frames, .colon members key)
    | _ => none
  | .colon members key =>
    match t with
    | .colon => some (.object members key :: frames, .value)
    | _ => none
  | .afterItem items =>
    match t with
    | .comma => some (.array items :: frames, .value)
    | .arrayClose => some (finish (.array items.reverse) frames)
    | _ => none
  | .afterMember members =>
    match t with
    | .comma => some (frames, .nextKey members)
    | .objectClose => some (finish (.object members.reverse) frames)
    | _ => none
  | .done _ => none

/-- The document that the remaining tokens complete. -/
def readTokens : List Token → List Frame → Goal → Option Json
  | [], [], .done v => some v
  | [], _, _ => none
  | t :: ts, frames, goal =>
    match step t frames goal with
    | none => none
    | some (frames', goal') => readTokens ts frames' goal'

/-- The document that a text spells. -/
def read? (text : String) : Option Json := do
  readTokens (← tokens text.toList) [] .value

end Coordination.Text.Json
