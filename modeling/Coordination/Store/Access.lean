import Coordination.Text.Decimal
import Coordination.Text.Quoted
import Coordination.Text.Record

/-!
# Access lists

Every node carries a list of grants. A grant gives permissions to an identity, and the identity
`world:anyone` is everybody's. A session holds a permission on a list when one grant alone gives it
that permission, to everybody or to one of the identities that the session has proved.
-/

namespace Coordination

/-! ## Permissions -/

/-- A set of permissions, one bit each. -/
structure Permissions where
  /-- The bits of the set. -/
  bits : UInt32
  deriving DecidableEq

namespace Permissions

/-- Read the data and list the children. -/
def read : Permissions := ⟨1⟩

/-- Replace the data. -/
def write : Permissions := ⟨2⟩

/-- Create children. -/
def create : Permissions := ⟨4⟩

/-- Delete children. -/
def delete : Permissions := ⟨8⟩

/-- Replace the access list. -/
def admin : Permissions := ⟨16⟩

/-- Every permission. -/
def all : Permissions := ⟨31⟩

/-- The permissions among some bits. -/
def ofBits (bits : UInt32) : Permissions := ⟨bits &&& all.bits⟩

/-- Whether every permission of `b` is in `a`. -/
def contains (a b : Permissions) : Bool := a.bits &&& b.bits == b.bits

/-- The permissions of two sets. -/
def union (a b : Permissions) : Permissions := ⟨a.bits ||| b.bits⟩

/-- A set of permissions as text. -/
def text (p : Permissions) : String := Text.tuple "Perms" [Text.Decimal.natural p.bits.toNat]

end Permissions

/-! ## Identities -/

/-- Who a client is, by some way of proving it. -/
structure Identity where
  /-- The way of proving it. -/
  scheme : String
  /-- The name that it proves. -/
  id : String
  deriving DecidableEq

namespace Identity

/-- The identity of everybody. -/
def anyone : Identity := ⟨"world", "anyone"⟩

/-- Whether this is the identity of everybody. -/
def isAnyone (i : Identity) : Bool := i == anyone

/-- An identity as it is written. -/
def written (i : Identity) : String := i.scheme ++ ":" ++ i.id

/-- An identity as text. -/
def text (i : Identity) : String :=
  Text.record "Id" [("scheme", Text.quoted i.scheme), ("id", Text.quoted i.id)]

end Identity

/-! ## Lists -/

/-- Permissions given to an identity. -/
structure Grant where
  /-- What is given. -/
  permissions : Permissions
  /-- To whom it is given. -/
  identity : Identity
  deriving DecidableEq

/-- A grant as text. -/
def Grant.text (g : Grant) : String :=
  Text.record "Acl" [("perms", g.permissions.text), ("id", g.identity.text)]

/-- The grants of a node. -/
abbrev Acl := List Grant

namespace Acl

/-- Everybody may do everything. -/
def worldOpen : Acl := [⟨.all, .anyone⟩]

/-- Everybody may read. -/
def worldReadable : Acl := [⟨.read, .anyone⟩]

/-- Whether who has proved `identities` holds permission `p`. -/
def permits (acl : Acl) (identities : List Identity) (p : Permissions) : Bool :=
  acl.any fun g =>
    g.permissions.contains p && (g.identity.isAnyone || identities.contains g.identity)

/-- An access list as text. -/
def text (acl : Acl) : String := Text.listing (acl.map Grant.text)

end Acl

end Coordination
