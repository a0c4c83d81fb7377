import Coordination.Store.Request
import Coordination.Text.Json.Fields
import Coordination.Text.Json.Printer
import Coordination.Text.Json.Reader

/-!
# Store types as JSON

Modes, request types and grants as documents. Choices are written as their names, permissions as
the number of their bits, identities and grants as records. Permissions keep every bit that is
written, also those that mean nothing.
-/

namespace Coordination

open Text

namespace CreateMode

/-- A mode as a document. -/
def toJson (m : CreateMode) : Json := .ofText m.name

/-- The mode that a document gives. -/
def ofJson? : Json → Option CreateMode := Json.choice? named

end CreateMode

namespace RequestType

/-- A request type as a document. -/
def toJson (t : RequestType) : Json := .ofText t.name

/-- The request type that a document gives. -/
def ofJson? : Json → Option RequestType := Json.choice? named

end RequestType

namespace Permissions

/-- Permissions as a document. -/
def toJson (p : Permissions) : Json := .ofNat p.bits.toNat

/-- The permissions that a document gives. -/
def ofJson? (v : Json) : Option Permissions :=
  (v.natural? (UInt32.size - 1)).map fun n => ⟨UInt32.ofNat n⟩

end Permissions

namespace Identity

/-- An identity as a document. -/
def toJson (i : Identity) : Json :=
  .ofFields [("scheme", some (.ofText i.scheme)), ("id", some (.ofText i.id))]

/-- The identity that a document gives. -/
def ofJson? (v : Json) : Option Identity :=
  match v.fields? false ["scheme", "id"] with
  | some [scheme, id] => do
    let scheme ← Json.required Json.text? scheme
    let id ← Json.required Json.text? id
    return ⟨scheme, id⟩
  | _ => none

end Identity

namespace Grant

/-- A grant as a document. -/
def toJson (g : Grant) : Json :=
  .ofFields [("perms", some g.permissions.toJson), ("id", some g.identity.toJson)]

/-- The grant that a document gives. -/
def ofJson? (v : Json) : Option Grant :=
  match v.fields? false ["perms", "id"] with
  | some [permissions, identity] => do
    let permissions ← Json.required Permissions.ofJson? permissions
    let identity ← Json.required Identity.ofJson? identity
    return ⟨permissions, identity⟩
  | _ => none

end Grant

end Coordination
