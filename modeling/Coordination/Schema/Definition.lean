import Coordination.Schema.Set
import Coordination.Store.Written

/-!
# Schema definitions

Schemas as they are written in a file: an array of records, each for either one path or the paths of
a pattern. What a record leaves out has a usual value. A record with a member that is not known is
refused, because a misspelt rule would otherwise not be kept.

Documents and expressions are read by others. What they say of a text that they do not read becomes
part of what is said here, so it is given to whatever turns definitions into schemas.
-/

namespace Coordination

open Text

/-- What the readers of documents and of expressions say of what they do not read. -/
structure Explanations where
  /-- Why some data are no document. -/
  document : ByteArray → String := fun _ => ""
  /-- Why a text is no expression. -/
  expression : String → String := fun _ => ""

/-- A schema as it is written. -/
structure SchemaDefinition where
  /-- The name of the schema. -/
  name : String
  /-- The path that it is for. -/
  path : Option String
  /-- The pattern of the paths that it is for. -/
  pattern : Option String
  /-- What it is about. -/
  documentation : String
  /-- Whether nodes may be ephemeral. -/
  ephemeral : Allowance
  /-- Whether nodes may be sequential. -/
  sequential : Allowance
  /-- Whether nodes may be deleted. -/
  canBeDeleted : Bool
  /-- The greatest length of data. -/
  maxDataLength : Option Nat
  /-- The form of data. -/
  dataFormat : DataFormat
  /-- What access lists have to look like. -/
  acl : AclRule
  deriving DecidableEq

namespace SchemaDefinition

/-! ## Meaning -/

/-- The paths that a definition is for. -/
def matcher (d : SchemaDefinition) (why : Explanations) : Except Failure Matcher :=
  match d.path, d.pattern with
  | some p, none => .ok (.exact p)
  | none, some pattern => Matcher.ofPattern pattern why.expression
  | _, _ =>
    .error (.invalidConfig ("schema '" ++ d.name ++ "' needs exactly one of path or pattern"))

/-- What a definition asks of data, the length before the form. -/
def dataRule (d : SchemaDefinition) (why : Explanations) : DataRule :=
  match d.maxDataLength.toList.map .atMost ++ d.dataFormat.rules why.document with
  | [] => .any
  | [r] => r
  | rs => .all rs

/-- The schema that a definition means. -/
def schema (d : SchemaDefinition) (why : Explanations) : Except Failure Schema :=
  match d.matcher why with
  | .error f => .error f
  | .ok matcher =>
    .ok
      { name := d.name, matcher, documentation := d.documentation, ephemeral := d.ephemeral,
        sequential := d.sequential, canBeDeleted := d.canBeDeleted, data := d.dataRule why,
        acl := d.acl }

/-! ## Text -/

/-- The names of the fields, in order. -/
def fieldNames : List String :=
  ["name", "path", "pattern", "documentation", "ephemeral", "sequential", "can_be_deleted",
    "max_data_len", "data_format", "acl_policy"]

/-- The greatest length that can be written. -/
def lengthLimit : Nat := UInt64.size - 1

/-- A definition as a document. -/
def toJson (d : SchemaDefinition) : Json :=
  .ofFields
    [("name", some (.ofText d.name)), ("path", d.path.map .ofText),
      ("pattern", d.pattern.map .ofText), ("documentation", some (.ofText d.documentation)),
      ("ephemeral", some (.ofText d.ephemeral.name)),
      ("sequential", some (.ofText d.sequential.name)),
      ("can_be_deleted", some (.bool d.canBeDeleted)),
      ("max_data_len", d.maxDataLength.map .ofNat),
      ("data_format", some (.ofText d.dataFormat.name)), ("acl_policy", some (.ofText d.acl.name))]

/-- The definition that a document gives. -/
def ofJson? (v : Json) : Option SchemaDefinition :=
  match v.fields? true fieldNames with
  | some [name, path, pattern, documentation, ephemeral, sequential, canBeDeleted, maxDataLength,
      dataFormat, acl] => do
    let name ← Json.required Json.text? name
    let path ← Json.withDefault none (Json.nullable? Json.text?) path
    let pattern ← Json.withDefault none (Json.nullable? Json.text?) pattern
    let documentation ← Json.withDefault "" Json.text? documentation
    let ephemeral ← Json.withDefault .can (Json.choice? Allowance.named) ephemeral
    let sequential ← Json.withDefault .can (Json.choice? Allowance.named) sequential
    let canBeDeleted ← Json.withDefault true Json.bool? canBeDeleted
    let maxDataLength ←
      Json.withDefault none (Json.nullable? (Json.natural? lengthLimit)) maxDataLength
    let dataFormat ← Json.withDefault .any (Json.choice? DataFormat.named) dataFormat
    let acl ← Json.withDefault .any (Json.choice? AclRule.named) acl
    return { name, path, pattern, documentation, ephemeral, sequential, canBeDeleted, maxDataLength,
             dataFormat, acl }
  | _ => none

end SchemaDefinition

namespace SchemaSet

/-- The schemas that definitions mean; the first that means none has the word. -/
def schemas (why : Explanations) : List SchemaDefinition → Except Failure (List Schema)
  | [] => .ok []
  | d :: ds =>
    match d.schema why with
    | .error f => .error f
    | .ok s =>
      match schemas why ds with
      | .error f => .error f
      | .ok ss => .ok (s :: ss)

/-- The set of the schemas that definitions mean. -/
def ofDefinitions (why : Explanations) (ds : List SchemaDefinition) : Except Failure SchemaSet :=
  (schemas why ds).map ofList

/-- The set that a text gives. -/
def ofText (text : String) (why : Explanations := {}) : Except Failure SchemaSet :=
  match (Json.read? text).bind fun v => v.items?.bind (·.mapM SchemaDefinition.ofJson?) with
  | none => .error .unreadableConfig
  | some ds => ofDefinitions why ds

/-- The set that a file of some bytes gives, or that a missing file does not give. -/
def ofFile (content : Option ByteArray) (why : Explanations := {}) : Except Failure SchemaSet :=
  match content.bind String.fromUTF8? with
  | none => .error .unreadableFile
  | some text => ofText text why

end SchemaSet

end Coordination
