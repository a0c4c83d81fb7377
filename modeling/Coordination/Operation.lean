import Coordination.Store.Answer
import Coordination.Namespace

/-!
# Operations and outcomes

An operation is what a caller asks for: a request in the caller's paths, whose access list may be
left to the client's default. An outcome is what the caller learns of one operation of a
transaction, under the path that the caller gave.
-/

namespace Coordination

/-- One operation of a caller. -/
structure Operation where
  /-- The request, with the caller's path. -/
  request : Request
  /-- Whether the caller chose the access list of the request. -/
  hasAcl : Bool
  deriving DecidableEq

namespace Operation

/-- Creates a node. Mode `container` makes it a container. -/
def create (path : String) (data : ByteArray) (mode : CreateMode) (acl : Option Acl) : Operation :=
  { request :=
      if mode.isContainer then .createContainer path data (acl.getD [])
      else .create path data (acl.getD []) mode
    hasAcl := acl.isSome }

/-- Creates a container. -/
def createContainer (path : String) (data : ByteArray) (acl : Option Acl) : Operation :=
  create path data .container acl

/-- An operation that carries no access list. -/
def plain (r : Request) : Operation := { request := r, hasAcl := false }

/-- The path that the caller gave. -/
def path (o : Operation) : String := o.request.path

/-- The request with the client's access list where the caller chose none. -/
def resolved (o : Operation) (fallback : Acl) : Request :=
  if o.hasAcl then o.request
  else match o.request with
    | .create p data _ mode => .create p data fallback mode
    | .createContainer p data _ => .createContainer p data fallback
    | r => r

@[simp] theorem path_resolved (o : Operation) (fallback : Acl) :
    (o.resolved fallback).path = o.path := by
  unfold resolved path
  split
  · rfl
  · split <;> simp_all [Request.path]

end Operation

/-- What a caller learns of one operation of a transaction. -/
structure Outcome where
  /-- What the operation does. -/
  type : RequestType
  /-- The path that the caller gave. -/
  path : String
  /-- The path of the node that was created. -/
  createdPath : Option String
  /-- The stat that the store reported. -/
  stat : Option Stat
  /-- Why the operation was not applied. -/
  code : Option ErrorCode
  deriving DecidableEq

/-- Whether the operation was applied. -/
def Outcome.isOk (o : Outcome) : Bool := o.code.isNone

end Coordination
