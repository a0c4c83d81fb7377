import Coordination.Schema.Matcher
import Coordination.Schema.Rule

/-!
# Schemas

The rules for the nodes at some paths. A create is looked at in a fixed order: its mode, its data,
its access list; the first rule that is broken has the word.
-/

namespace Coordination

/-- The rules for the nodes at some paths. -/
structure Schema where
  /-- The name of the schema. -/
  name : String
  /-- The paths that it is for. -/
  matcher : Matcher
  /-- What it is about. -/
  documentation : String
  /-- Whether nodes may be ephemeral. -/
  ephemeral : Allowance
  /-- Whether nodes may be sequential. -/
  sequential : Allowance
  /-- Whether nodes may be deleted. -/
  canBeDeleted : Bool
  /-- What data has to look like. -/
  data : DataRule
  /-- What access lists have to look like. -/
  acl : AclRule

namespace Schema

/-- A schema that allows everything at some paths. -/
def permissive (name : String) (matcher : Matcher) : Schema :=
  { name, matcher, documentation := "", ephemeral := .can, sequential := .can, canBeDeleted := true,
    data := .any, acl := .any }

/-- The schema of paths that no other is for. -/
def fallback : Schema := { permissive "__default__" .any with documentation := "default schema" }

/-- A broken rule as the violation of a schema. -/
def broken (s : Schema) (p : String) : Except String Unit → Except Violation Unit
  | .ok () => .ok ()
  | .error reason => .error ⟨s.name, p, reason⟩

/-- Accepts modes that a schema allows. -/
def checkMode (s : Schema) (mode : CreateMode) : Except String Unit :=
  match s.ephemeral.check mode.isEphemeral "ephemeral" with
  | .error reason => .error reason
  | .ok () => s.sequential.check mode.isSequential "sequential"

/-- Accepts data and, if one is given, an access list that a schema allows. -/
def checkContent (s : Schema) (data : ByteArray) (acl : Option Acl) : Except String Unit :=
  match s.data.check data with
  | .error reason => .error reason
  | .ok () =>
    match acl with
    | none => .ok ()
    | some acl => s.acl.check acl

/-- Accepts the content of a node at a path. -/
def validateContent (s : Schema) (p : String) (data : ByteArray) (acl : Option Acl) :
    Except Violation Unit :=
  s.broken p (s.checkContent data acl)

/-- Accepts the creation of a node at a path. -/
def validateCreate (s : Schema) (mode : CreateMode) (p : String) (data : ByteArray) (acl : Acl) :
    Except Violation Unit :=
  s.broken p
    (match s.checkMode mode with
    | .error reason => .error reason
    | .ok () => s.checkContent data (some acl))

/-- Accepts the deletion of a node at a path. -/
def validateDelete (s : Schema) (p : String) : Except Violation Unit :=
  s.broken p (if s.canBeDeleted then .ok () else .error "cannot be deleted")

/-- Accepts a request, the caller having given path `p`. -/
def validate (s : Schema) (p : String) : Request → Except Violation Unit
  | .create _ data acl mode => s.validateCreate mode p data acl
  | .createContainer _ data acl => s.validateCreate .container p data acl
  | .delete .. | .deleteContainer _ => s.validateDelete p
  | .setData _ data _ => s.validateContent p data none
  | .check .. => .ok ()

end Schema

end Coordination
