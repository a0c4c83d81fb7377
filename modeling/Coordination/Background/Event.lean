import Coordination.Operation

/-!
# Events

How a call that runs in the background comes back to its caller. An event says what kind of call it
was, under the caller's path, and how it ended; it carries the value that the caller gave along.
-/

namespace Coordination

/-- What kind of call an event is about. -/
inductive EventType where
  | create
  | delete
  | setData
  | check
  | transaction
  deriving DecidableEq

/-- The name of an event type. -/
def EventType.name : EventType → String
  | create => "Create"
  | delete => "Delete"
  | setData => "SetData"
  | check => "Check"
  | transaction => "Transaction"

/-- The event type of a call for one operation. -/
def RequestType.eventType : RequestType → EventType
  | create => .create
  | delete => .delete
  | setData => .setData
  | check => .check

/-- A value that the caller gives along. -/
inductive Context where
  | text (s : String)
  | number (i : Int)
  deriving DecidableEq

/-- How a call ended. -/
structure Event where
  /-- What kind of call it was. -/
  type : EventType
  /-- Why it failed. -/
  code : Option ErrorCode
  /-- The path that the caller gave; a transaction has none. -/
  path : Option String
  /-- The path of the node that was created. -/
  name : Option String
  /-- The stat that the store reported. -/
  stat : Option Stat
  /-- The value that the caller gave along. -/
  context : Option Context
  /-- The outcomes of a transaction's operations. -/
  outcomes : Option (List Outcome)
  deriving DecidableEq

namespace Event

/-- The event of a call that ended well and has nothing to report. -/
def bare (type : EventType) (path : Option String) : Event :=
  { type, path, code := none, name := none, stat := none, context := none, outcomes := none }

/-- The event of a call that failed. -/
def failed (type : EventType) (path : Option String) (code : ErrorCode) : Event :=
  { bare type path with code := some code }

/-- Whether the call ended well. -/
def isOk (e : Event) : Bool := e.code.isNone

end Event

end Coordination
