import Coordination.Text.Decimal

/-!
# Error codes

The reasons for which the store refuses a request, each with its number. Two of them say that the
connection failed, so that the outcome of the request is not known: only those are worth a retry.
-/

namespace Coordination

/-- A reason for which the store refuses a request. -/
inductive ErrorCode where
  /-- An answer that makes no sense; also the code of requests that another one of their batch kept
  from being applied. -/
  | runtimeInconsistency
  /-- The connection was lost. -/
  | connectionLoss
  /-- The request is malformed. -/
  | badArguments
  /-- The store did not answer in time. -/
  | operationTimeout
  /-- The store does not know the request. -/
  | unimplemented
  /-- The node does not exist. -/
  | noNode
  /-- The session lacks the permission. -/
  | noAuth
  /-- The node has another version. -/
  | badVersion
  /-- Ephemeral nodes have no children. -/
  | noChildrenForEphemerals
  /-- The node exists already. -/
  | nodeExists
  /-- The node has children. -/
  | notEmpty
  /-- The session has expired. -/
  | sessionExpired
  /-- The access list is not allowed. -/
  | invalidAcl
  /-- The client could not prove its identity. -/
  | authFailed
  /-- The session belongs to another server now. -/
  | sessionMoved
  deriving DecidableEq

namespace ErrorCode

/-- Every code. -/
def all : List ErrorCode :=
  [runtimeInconsistency, connectionLoss, badArguments, operationTimeout, unimplemented, noNode,
    noAuth, badVersion, noChildrenForEphemerals, nodeExists, notEmpty, sessionExpired, invalidAcl,
    authFailed, sessionMoved]

/-- The number of a code. -/
def number : ErrorCode → Int
  | runtimeInconsistency => -2
  | connectionLoss => -4
  | badArguments => -8
  | operationTimeout => -7
  | unimplemented => -6
  | noNode => -101
  | noAuth => -102
  | badVersion => -103
  | noChildrenForEphemerals => -108
  | nodeExists => -110
  | notEmpty => -111
  | sessionExpired => -112
  | invalidAcl => -114
  | authFailed => -115
  | sessionMoved => -118

/-- The code with a number. -/
def ofNumber? (n : Int) : Option ErrorCode := all.find? (·.number == n)

/-- The name of a code. -/
def name : ErrorCode → String
  | runtimeInconsistency => "RuntimeInconsistency"
  | connectionLoss => "ConnectionLoss"
  | badArguments => "BadArguments"
  | operationTimeout => "OperationTimeout"
  | unimplemented => "Unimplemented"
  | noNode => "NoNode"
  | noAuth => "NoAuth"
  | badVersion => "BadVersion"
  | noChildrenForEphemerals => "NoChildrenForEphemerals"
  | nodeExists => "NodeExists"
  | notEmpty => "NotEmpty"
  | sessionExpired => "SessionExpired"
  | invalidAcl => "InvalidAcl"
  | authFailed => "AuthFailed"
  | sessionMoved => "SessionMoved"

/-- The code with a name. -/
def ofName? (s : String) : Option ErrorCode := all.find? (·.name == s)

/-- Whether a request that met with this code may be sent again. -/
def isRetryable : ErrorCode → Bool
  | connectionLoss | operationTimeout => true
  | _ => false

/-- A code in words. -/
def words : ErrorCode → String
  | runtimeInconsistency => "runtime inconsistency"
  | connectionLoss => "connection loss"
  | badArguments => "bad arguments"
  | operationTimeout => "operation timeout"
  | unimplemented => "unimplemented"
  | noNode => "no node"
  | noAuth => "not authorized"
  | badVersion => "bad version"
  | noChildrenForEphemerals => "no children for ephemerals"
  | nodeExists => "node exists"
  | notEmpty => "directory not empty"
  | sessionExpired => "session expired"
  | invalidAcl => "invalid ACL"
  | authFailed => "authentication failed"
  | sessionMoved => "session moved"

/-- A code in words, with its number. -/
def message (c : ErrorCode) : String := c.words ++ " (" ++ Text.Decimal.integer c.number ++ ")"

theorem mem_all (c : ErrorCode) : c ∈ all := by cases c <;> decide

theorem ofNumber?_number (c : ErrorCode) : ofNumber? c.number = some c := by cases c <;> decide

end ErrorCode

end Coordination
