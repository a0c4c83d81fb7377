import Coordination.Background.Mode
import Coordination.Client.Basic

/-!
# Jobs

A call on its way through the background: what it sends to the store, how it is to be run, and how
often it has been sent again. A reply is what the store says to it, and becomes the event of the
call. A repeat that finds its work done has succeeded, as in the foreground.
-/

namespace Coordination

/-- What a job sends to the store. -/
inductive Payload where
  /-- One request, with the caller's path. -/
  | single (r : Request) (path : String)
  /-- A transaction. -/
  | batch (b : Batch)
  deriving DecidableEq

/-- What the store says to a job. -/
inductive StoreReply where
  | single (result : Except StoreError Answer)
  | batch (result : Except StoreError (List Answer))

namespace StoreReply

/-- The error of a reply. -/
def error? : StoreReply → Option StoreError
  | single (.error e) | batch (.error e) => some e
  | _ => none

end StoreReply

namespace Payload

/-- The type of the call's event. -/
def type : Payload → EventType
  | single r _ => r.type.eventType
  | batch _ => .transaction

/-- The caller's path. -/
def path? : Payload → Option String
  | single _ path => some path
  | batch _ => none

/-- The reply of a store that could not be asked. -/
def refused (e : StoreError) : Payload → StoreReply
  | single .. => .single (.error e)
  | batch _ => .batch (.error e)

end Payload

/-- A call on its way through the background. -/
structure Job where
  /-- The number of the call. -/
  ticket : Nat
  /-- What it sends to the store. -/
  payload : Payload
  /-- How it is to be run. -/
  mode : Mode
  /-- The event of a call that is not to be sent at all. -/
  decided : Option Event
  /-- How often it has been sent again. -/
  retries : Nat
  /-- When it was first looked at, in nanoseconds. -/
  started : Option Nat
  deriving DecidableEq

namespace Job

/-- A call that has not been looked at. -/
def fresh (ticket : Nat) (payload : Payload) (mode : Mode) (decided : Option Event) : Job :=
  { ticket, payload, mode, decided, retries := 0, started := none }

/-- The job, having been looked at. -/
def begun (j : Job) (now : Nat) : Job := { j with started := some (j.started.getD now) }

/-- The job, to be sent again. -/
def retried (j : Job) : Job := { j with retries := j.retries + 1 }

/-- The event of a call that failed. -/
def failedEvent (j : Job) (code : ErrorCode) : Event :=
  .failed j.payload.type j.payload.path? code

/-- How long to wait before the job is sent again, if it is to be. The die is thrown for the call,
after so many retries. -/
def delay? (rule : RetryRule) (die : Nat → Nat → Nat) (now : Nat) (j : Job) (reply : StoreReply) :
    Option Duration :=
  match reply.error? with
  | none => none
  | some e =>
    rule.next? j.retries (.ofNanos (now - j.started.getD now)) (die j.ticket j.retries) e

/-- The event of one answered request. -/
def answered (n : Namespace) (e : Event) : Except StoreError Answer → Event
  | .ok (.created p stat) => { e with name := some (n.unfix p), stat }
  | .ok (.dataSet stat) => { e with stat := some stat }
  | .ok .deleted | .ok .checked => e
  | .ok (.failed code) => { e with code := some code }
  | .error refusal => { e with code := some refusal.code }

/-- The event of a job that has its reply. -/
def event (n : Namespace) (j : Job) (reply : StoreReply) : Except Failure Event :=
  let bare := Event.bare j.payload.type j.payload.path?
  match j.payload, reply with
  | .single r _, .single result => .ok (answered n bare (r.settled j.retries result))
  | .batch b, .batch (.ok answers) =>
    (b.outcomes n answers).map fun os => { bare with outcomes := some os }
  | .batch b, .batch (.error (.aborted _ code answers)) =>
    (b.outcomes n answers).map fun os => { bare with code := some code, outcomes := some os }
  | .batch _, .batch (.error refusal) => .ok { bare with code := some refusal.code }
  | _, _ => .error (.protocol "completion does not match the submitted call")

end Job

end Coordination
