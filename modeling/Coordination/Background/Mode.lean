import Coordination.Background.Event
import Coordination.Background.Executor

/-!
# Modes

How a call is run: at once, or in the background with an event for its caller. A caller's callback
and listeners are given by what they do: they take note of what they are told, and they may fail,
panic, close the client or call it again.
-/

namespace Coordination

/-- What a callback does with an event besides taking note of it. -/
inductive Reaction where
  /-- Nothing. -/
  | accept
  /-- It fails with a message. -/
  | fail (message : String)
  /-- It panics, with a message if the panic carries one. -/
  | panic (message : Option String)
  /-- It closes the client first. -/
  | close
  /-- It runs an operation in the foreground first. -/
  | execute (o : Operation)
  deriving DecidableEq

/-- Why the callback failed, in words. -/
def Reaction.fault? : Reaction → Option String
  | fail m => some m
  | panic m => some ("panic: " ++ m.getD "callback panicked")
  | _ => none

/-- How a call is run. -/
structure Mode where
  /-- Whether it runs in the background. -/
  background : Bool
  /-- What gets the event; without a callback, the client's listeners do. -/
  callback : Option Reaction
  /-- A value to be given back with the event. -/
  context : Option Context
  /-- Where the callback runs, if not on the client's own thread. -/
  executor : Option Executor
  /-- What gets the call's errors, and whether it panics then. -/
  errorListener : Option Bool
  deriving DecidableEq

namespace Mode

/-- At once. -/
def foreground : Mode :=
  { background := false, callback := none, context := none, executor := none,
    errorListener := none }

/-- In the background. -/
def inBackground : Mode := { foreground with background := true }

/-- The mode with a callback, which needs the background. -/
def withCallback (m : Mode) (r : Reaction) : Mode :=
  { m with background := true, callback := some r }

/-- A mode as text. -/
def text (m : Mode) : String :=
  Text.record "Backgrounding"
    [("in_background", Text.truth m.background), ("has_callback", Text.truth m.callback.isSome),
      ("has_context", Text.truth m.context.isSome),
      ("has_executor", Text.truth m.executor.isSome),
      ("has_error_listener", Text.truth m.errorListener.isSome)]

end Mode

end Coordination
