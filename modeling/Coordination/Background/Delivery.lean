import Coordination.Background.Job

/-!
# Delivery

What happens when an event reaches its caller. The callback of the call gets it, or else each of the
client's listeners in the order in which they were added. What fails on the way is reported once: to
the listener that the call brought along, or else to each of the client's error listeners. Neither a
failure nor a panic keeps the others from being told.
-/

namespace Coordination

/-- An error on the way of an event to its caller. -/
structure Notice where
  /-- What went wrong. -/
  message : String
  /-- How. -/
  failure : Failure
  deriving DecidableEq

/-- One thing that somebody is told. -/
inductive Telling where
  /-- The callback of the call gets the event. -/
  | callback (e : Event)
  /-- A listener of the client gets the event. -/
  | listener (index : Nat) (e : Event)
  /-- The error listener of the call gets a notice. -/
  | callError (n : Notice)
  /-- An error listener of the client gets a notice. -/
  | clientError (index : Nat) (n : Notice)
  deriving DecidableEq

/-- An event on its way. -/
structure Delivery where
  /-- The number of the call. -/
  ticket : Nat
  /-- The event. -/
  event : Event
  /-- What gets the event. -/
  callback : Option Reaction
  /-- What gets the call's errors, and whether it panics then. -/
  errorListener : Option Bool
  deriving DecidableEq

/-- A job's event on its way, with the value that the caller gave along. -/
def Job.delivery (j : Job) (e : Event) : Delivery :=
  { ticket := j.ticket, event := { e with context := j.mode.context }, callback := j.mode.callback,
    errorListener := j.mode.errorListener }

namespace Telling

/-- Reports an error to the call's own listener, or else to `listeners` listeners of the client. -/
def report (own : Option Bool) (listeners : Nat) (n : Notice) : List Telling :=
  match own with
  | some _ => [.callError n]
  | none => (List.range listeners).map (.clientError · n)

/-- The report of a fault, if there is one. -/
def reportFault (own : Option Bool) (listeners : Nat) (message : String) :
    Option String → List Telling
  | none => []
  | some m => report own listeners ⟨message, .callbackFailed m⟩

end Telling

namespace Delivery

/-- Gives the event to listeners of the client, counted from `index`; of each is given how it fails,
if it does. -/
def announce (e : Event) (errorListeners index : Nat) : List (Option String) → List Telling
  | [] => []
  | fault :: rest =>
    .listener index e :: Telling.reportFault none errorListeners "event listener failed" fault
      ++ announce e errorListeners (index + 1) rest

/-- All that is told when an event is delivered to a client with some listeners. -/
def tellings (d : Delivery) (listeners : List (Option String)) (errorListeners : Nat) :
    List Telling :=
  match d.callback with
  | some r =>
    .callback d.event
      :: Telling.reportFault d.errorListener errorListeners "background callback failed" r.fault?
  | none => announce d.event errorListeners 0 listeners

end Delivery

end Coordination
