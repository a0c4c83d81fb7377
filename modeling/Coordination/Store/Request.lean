import Coordination.Store.Access
import Coordination.Store.Stat

/-!
# Requests

What a session asks of the store: each request names one node. Requests that name a version are
refused when the node has another, unless they name `anyVersion`.
-/

namespace Coordination

/-- The version that every node has. -/
def anyVersion : Int32 := -1

/-- Data are compared byte by byte. -/
instance decidableEqData : DecidableEq ByteArray := ByteArray.instDecidableEq

/-- A request about one node. -/
inductive Request where
  /-- Create a node. -/
  | create (path : String) (data : ByteArray) (acl : Acl) (mode : CreateMode)
  /-- Create a container. -/
  | createContainer (path : String) (data : ByteArray) (acl : Acl)
  /-- Delete a node of a version. -/
  | delete (path : String) (version : Int32)
  /-- Delete a container without children. -/
  | deleteContainer (path : String)
  /-- Replace the data of a node of a version. -/
  | setData (path : String) (data : ByteArray) (version : Int32)
  /-- Make sure that a node has a version. -/
  | check (path : String) (version : Int32)
  deriving DecidableEq

/-- What a request does, containers not told apart. -/
inductive RequestType where
  | create
  | delete
  | setData
  | check
  deriving DecidableEq

/-- The name of a request type. -/
def RequestType.name : RequestType → String
  | create => "create"
  | delete => "delete"
  | setData => "set_data"
  | check => "check"

/-- The request types by their names. -/
def RequestType.named : List (String × RequestType) :=
  [create, delete, setData, check].map fun t => (t.name, t)

namespace Request

/-- What a request does. -/
def type : Request → RequestType
  | create .. | createContainer .. => .create
  | delete .. | deleteContainer .. => .delete
  | setData .. => .setData
  | check .. => .check

/-- The path of the node that a request is about. -/
def path : Request → String
  | create p .. | createContainer p .. => p
  | delete p _ | deleteContainer p | setData p .. | check p _ => p

/-- The same request about another node. -/
def withPath (r : Request) (q : String) : Request :=
  match r with
  | create _ data acl mode => create q data acl mode
  | createContainer _ data acl => createContainer q data acl
  | delete _ version => delete q version
  | deleteContainer _ => deleteContainer q
  | setData _ data version => setData q data version
  | check _ version => check q version

/-- The mode of the node that a request creates. -/
def mode? : Request → Option CreateMode
  | create _ _ _ mode => some mode
  | createContainer .. => some .container
  | _ => none

/-- The data that a request carries. -/
def data? : Request → Option ByteArray
  | create _ data .. | createContainer _ data _ | setData _ data _ => some data
  | _ => none

/-- The access list that a request carries. -/
def acl? : Request → Option Acl
  | create _ _ acl _ | createContainer _ _ acl => some acl
  | _ => none

/-- The version that a request names. -/
def version? : Request → Option Int32
  | delete _ version | setData _ _ version | check _ version => some version
  | _ => none

/-- Whether a request changes the tree when it succeeds. -/
def isMutation : Request → Bool
  | check .. => false
  | _ => true

@[simp] theorem path_withPath (r : Request) (q : String) : (r.withPath q).path = q := by
  cases r <;> rfl

@[simp] theorem withPath_path (r : Request) : r.withPath r.path = r := by
  cases r <;> rfl

@[simp] theorem type_withPath (r : Request) (q : String) : (r.withPath q).type = r.type := by
  cases r <;> rfl

@[simp] theorem mode?_withPath (r : Request) (q : String) : (r.withPath q).mode? = r.mode? := by
  cases r <;> rfl

@[simp] theorem data?_withPath (r : Request) (q : String) : (r.withPath q).data? = r.data? := by
  cases r <;> rfl

@[simp] theorem acl?_withPath (r : Request) (q : String) : (r.withPath q).acl? = r.acl? := by
  cases r <;> rfl

end Request

end Coordination
