import Coordination.Store.Request
import Coordination.Path

/-!
# Namespaces

A namespace is a node under which a client works as if it were the root. Paths that the client gives
are moved below that node, and paths that come back are moved up again; a path that does not lie
below the node comes back as it is.
-/

namespace Coordination

/-- The node that a client takes for the root; none if it is the root itself. -/
structure Namespace where
  /-- The path of the node. -/
  root : Option String
  deriving DecidableEq

namespace Namespace

/-- The namespace that leaves paths as they are. -/
def whole : Namespace := ⟨none⟩

/-- The namespace with a name: a path, its slashes at either end left out or repeated. A name
without anything but slashes is that of the whole tree. -/
def ofName? (name : String) : Option Namespace :=
  let trimmed := Path.trimRight (Path.trimLeft name.toList)
  if trimmed.isEmpty then some whole
  else if Path.isValidChars ('/' :: trimmed) then some ⟨some (String.ofList ('/' :: trimmed))⟩
  else none

/-- The path in the store of a path in the namespace. -/
def fix (n : Namespace) (p : String) : String :=
  match n.root with
  | none => p
  | some root => if p = Path.root then root else Path.join root p

/-- The path in the namespace of a path in the store. -/
def unfix (n : Namespace) (p : String) : String :=
  match n.root with
  | none => p
  | some root =>
    if p = root then Path.root
    else match root.toList.isPrefixOf? p.toList with
      | some ('/' :: below) => String.ofList ('/' :: below)
      | _ => p

/-- A request with its path moved into the store. -/
def fixRequest (n : Namespace) (r : Request) : Request := r.withPath (n.fix r.path)

/-- A namespace as text. -/
def text (n : Namespace) : String :=
  Text.record "Namespace" [("root", Text.optional (n.root.map Text.quoted))]

@[simp] theorem fix_whole (p : String) : whole.fix p = p := rfl

@[simp] theorem unfix_whole (p : String) : whole.unfix p = p := rfl

@[simp] theorem path_fixRequest (n : Namespace) (r : Request) :
    (n.fixRequest r).path = n.fix r.path := by
  simp [fixRequest]

end Namespace

end Coordination
