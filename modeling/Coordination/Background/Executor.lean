import Coordination.Text.Quoted
import Coordination.Text.Record

/-!
# Executors

Where callbacks run: on the thread that has the event, or on a delivery thread, which runs what it
is given in order. A delivery thread that has been shut down takes nothing more, and then the thread
that has the event runs the callback itself, so that every callback is run once.
-/

namespace Coordination

/-- A thread that runs callbacks. -/
structure DeliveryThread where
  /-- The name of the thread. -/
  name : String
  /-- Whether it takes work. -/
  isOpen : Bool
  deriving DecidableEq

namespace DeliveryThread

/-- A thread that takes work. -/
def named (name : String) : DeliveryThread := { name, isOpen := true }

/-- The thread after it has been shut down. -/
def shutdown (t : DeliveryThread) : DeliveryThread := { t with isOpen := false }

/-- A thread as text. -/
def text (t : DeliveryThread) : String :=
  Text.record "DeliveryThread" [("name", Text.quoted t.name), ("open", Text.truth t.isOpen)]

end DeliveryThread

/-- Where callbacks run. -/
inductive Executor where
  /-- On the thread that has the event. -/
  | inline
  /-- On a delivery thread. -/
  | thread (t : DeliveryThread)
  deriving DecidableEq

namespace Executor

/-- The name of the delivery thread that takes what it is given; none if the thread that has the
event runs the callback itself. -/
def taker? : Executor → Option String
  | inline => none
  | thread t => if t.isOpen then some t.name else none

/-- The name of the thread that runs what the thread `caller` hands over. -/
def runner (e : Executor) (caller : String) : String := e.taker?.getD caller

/-- The executor after it has been shut down. -/
def shutdown : Executor → Executor
  | inline => inline
  | thread t => thread t.shutdown

/-- An executor as text. -/
def text : Executor → String
  | inline => "InlineExecutor"
  | thread t => t.text

end Executor

end Coordination
