import Std.Data.ExtTreeMap
import Coordination.Background.Job

/-!
# The processor

What carries the background calls of one client: a queue of messages, and the calls that wait to be
sent again. It takes one message at a time. A call whose reply asks for another attempt is parked
until its delay is over, so that the processor never sleeps while others wait. Once the processor is
shut down it takes what is queued, finishes what is parked with the reply it has, and stops; replies
that come later find the gate closed and are finished by whoever brings them.

An instant has to fit into `instantLimit`: a delay that leads beyond it is the end of the processor
and of everything that it holds.

## Main definitions

* `Processor.enqueue?`, `Processor.complete?`, `Processor.shutdown`: what happens to it from outside
* `Processor.step?`: what it does next, if it does not have to wait
-/

namespace Coordination

/-- A message to the processor. -/
inductive Message where
  /-- A new call. -/
  | submit (j : Job)
  /-- A call with its reply. -/
  | completed (j : Job) (reply : StoreReply)
  /-- The last message. -/
  | shutdown

/-- What the processor is about. -/
inductive Phase where
  /-- It takes messages and sends parked calls again. -/
  | running
  /-- It has seen the last message and clears up. -/
  | draining
  /-- It has ended. -/
  | stopped
  /-- It has ended without clearing up. -/
  | dead
  deriving DecidableEq

/-- What carries the background calls of a client. -/
structure Processor where
  /-- Whether messages are let in. -/
  gateOpen : Bool
  /-- What it is about. -/
  phase : Phase
  /-- The messages, the next one first. -/
  queue : List Message
  /-- When which parked calls are due, the next one first. -/
  due : List (Nat × Nat)
  /-- The parked calls with their replies, by their numbers. -/
  parked : Std.ExtTreeMap Nat (Job × StoreReply)
  /-- The number of the next parked call. -/
  nextId : Nat

/-- What the processor asks to be done. -/
inductive Action where
  /-- Nothing. -/
  | none
  /-- To send a call to the store. -/
  | perform (j : Job)
  /-- To deliver the event of a call. -/
  | finish (j : Job) (reply : StoreReply)

namespace Processor

/-- The first instant that is too late, in nanoseconds. -/
def instantLimit : Nat := Nat.pow 2 63 * Duration.perSecond

/-- A processor with nothing to do. -/
def initial : Processor :=
  { gateOpen := true, phase := .running, queue := [], due := [], parked := ∅, nextId := 0 }

/-- Whether the processor takes messages. -/
def accepts (p : Processor) : Bool := p.gateOpen && p.phase != .dead

/-- Whether the processor has ended, one way or the other. -/
def hasEnded (p : Processor) : Bool := p.phase == .stopped || p.phase == .dead

/-- The processor with one more message. -/
def push (p : Processor) (m : Message) : Processor := { p with queue := p.queue ++ [m] }

/-- Takes a new call; none if it takes no messages. -/
def enqueue? (p : Processor) (j : Job) : Option Processor :=
  if p.accepts then some (p.push (.submit j)) else none

/-- Takes a call with its reply; none if it takes no messages. -/
def complete? (p : Processor) (j : Job) (reply : StoreReply) : Option Processor :=
  if p.accepts then some (p.push (.completed j reply)) else none

/-- Closes the gate behind the last message. -/
def shutdown (p : Processor) : Processor :=
  if p.gateOpen then
    let closed := { p with gateOpen := false }
    if p.phase = .dead then closed else closed.push .shutdown
  else p

/-- A due time among others, in order. -/
def insertDue (entry : Nat × Nat) : List (Nat × Nat) → List (Nat × Nat)
  | [] => [entry]
  | d :: ds =>
    if entry.1 < d.1 ∨ (entry.1 = d.1 ∧ entry.2 < d.2) then entry :: d :: ds
    else d :: insertDue entry ds

/-- Parks a call until an instant. -/
def park (p : Processor) (due : Nat) (j : Job) (reply : StoreReply) : Processor :=
  { p with
    due := insertDue (due, p.nextId) p.due
    parked := p.parked.insert p.nextId (j, reply)
    nextId := p.nextId + 1 }

/-- The end without clearing up. -/
def die (p : Processor) : Processor :=
  { p with phase := .dead, queue := [], due := [], parked := ∅ }

/-- Takes a message while running. -/
def take (delay? : Job → StoreReply → Option Duration) (now : Nat) (p : Processor) :
    Message → Action × Processor
  | .submit j => (.perform j, p)
  | .completed j reply =>
    match delay? j reply with
    | none => (.finish j reply, p)
    | some d =>
      if now + d.nanos < instantLimit then (.none, p.park (now + d.nanos) j reply)
      else (.none, p.die)
  | .shutdown => (.none, { p with phase := .draining })

/-- Takes a message while clearing up. -/
def drain (p : Processor) : Message → Action × Processor
  | .submit j => (.perform j, p)
  | .completed j reply => (.finish j reply, p)
  | .shutdown => (.none, p)

/-- Sends a parked call again. -/
def resume (p : Processor) (id : Nat) : Action × Processor :=
  match p.parked[id]? with
  | none => (.none, p)
  | some (j, _) => (.perform j.retried, { p with parked := p.parked.erase id })

/-- What is left of the due times when the first of them has come. -/
def dueNow? (now : Nat) (p : Processor) : Option (Nat × List (Nat × Nat)) :=
  match p.due with
  | (due, id) :: rest => if due ≤ now then some (id, rest) else none
  | [] => none

/-- What the processor does next at an instant; none if there is nothing to do by then. -/
def step? (delay? : Job → StoreReply → Option Duration) (now : Nat) (p : Processor) :
    Option (Action × Processor) :=
  match p.phase with
  | .running =>
    match p.dueNow? now with
    | some (id, rest) => some ({ p with due := rest }.resume id)
    | none =>
      match p.queue with
      | [] => none
      | m :: queue => some ({ p with queue }.take delay? now m)
  | .draining =>
    match p.queue with
    | m :: queue => some ({ p with queue }.drain m)
    | [] =>
      match p.parked.toList with
      | (id, j, reply) :: _ => some (.finish j reply, { p with parked := p.parked.erase id })
      | [] => some (.none, { p with phase := .stopped })
  | .stopped | .dead => none

/-- When the processor has something to do without being told. -/
def nextDue? (p : Processor) : Option Nat :=
  match p.phase, p.due with
  | .running, (due, _) :: _ => some due
  | _, _ => none

/-- A processor as text. -/
def text (p : Processor) : String :=
  Text.record "BackgroundProcessor" [("running", Text.truth p.gateOpen)]

end Processor

end Coordination
