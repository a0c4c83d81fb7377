import Coordination.Simulation.Attempt

/-!
# The schedule

Puts the work of a world in order: processors first, then replies, then workers, each thread in the
order of its own queue. A world settles when nobody can do anything without waiting; only who waits
for a call lets time pass, up to the next instant at which a parked call is due.

Work is bounded: every call in the world is attempted at most as often as its policy allows, or as
there are faults to come, and each attempt takes few steps. `World.workBound` counts generously.
-/

namespace Coordination

namespace World

/-! ## The workers' work -/

/-- The world with a worker changed. -/
def updateWorker (w : World) (i : Nat) (f : Worker → Worker) : World :=
  { w with workers := w.workers.modify i f }

/-- A worker has made its next delivery. -/
def Worker.done (x : Worker) : Worker := { x with queue := x.queue.tail, waits := false }

/-- A worker takes its next step, if it does not have to wait. A callback that closes the client
waits for the client's processor to end before the session is closed. -/
def stepWorker? (w : World) (i : Nat) : Option World :=
  match w.workers[i]? with
  | none => none
  | some x =>
    match x.queue with
    | [] => none
    | (k, d) :: _ =>
      match w.members[k]? with
      | none => some (w.updateWorker i Worker.done)
      | some m =>
        if x.waits then
          if m.processor.hasEnded then
            some (((w.endClose k).note k (.worker x.id) d).updateWorker i Worker.done)
          else none
        else if d.callback = some .close ∧ !m.client.closed then
          some ((w.beginClose k).updateWorker i fun x => { x with waits := true })
        else some ((w.run k (.worker x.id) d).updateWorker i Worker.done)

/-! ## Order -/

/-- A reply comes in, if one is on its way. -/
def stepReply? (w : World) : Option World :=
  match w.incoming with
  | [] => none
  | r :: incoming => some ({ w with incoming }.receive r)

/-- The next piece of work, if there is one that need not wait. -/
def step? (w : World) : Option World :=
  match (List.range w.members.length).findSome? w.stepProcessor? with
  | some w' => some w'
  | none =>
    match w.stepReply? with
    | some w' => some w'
    | none => (List.range w.workers.length).findSome? w.stepWorker?

/-- So many pieces of work, as long as there are any. -/
def settleFor : Nat → World → World
  | 0, w => w
  | n + 1, w =>
    match w.step? with
    | none => w
    | some w' => settleFor n w'

/-- How much work a client has before it. -/
def Member.load (m : Member) : Nat := m.processor.queue.length + m.processor.parked.size + 2

/-- How often a call can be attempted. -/
def attemptBound (w : World) : Nat :=
  (w.members.map fun m => m.client.config.policy.retryLimit?.getD 0).foldl max 0
    + w.store.faults.length + 1

/-- More pieces of work than there can be. -/
def workBound (w : World) : Nat :=
  let load := w.members.foldl (fun n m => n + Member.load m) 0
  let handed := w.workers.foldl (fun n x => n + x.queue.length) 0
  8 * (load + w.incoming.length + handed + 1) * (w.attemptBound + 1)

/-- Everything that can be done without waiting is done. -/
def settle (w : World) : World := settleFor w.workBound w

/-! ## Time -/

/-- The next instant at which a parked call is due. -/
def nextDue? (w : World) : Option Nat := (w.members.filterMap fun m => m.processor.nextDue?).min?

/-- Whether the event of a call has been delivered. -/
def isDelivered (w : World) (ticket : Nat) : Bool :=
  match w.calls[ticket]? with
  | none => true
  | some c => !c.deliveries.isEmpty

/-- Whether a reply is held back for a client. -/
def isHolding (w : World) (k : Nat) : Bool := (w.members[k]?).any fun m => !m.held.isEmpty

/-- Lets time pass until something has come about, through so many due instants. -/
def waitFor (reached : World → Bool) : Nat → World → World
  | 0, w => w
  | n + 1, w =>
    if reached w then w
    else match w.nextDue? with
      | none => w
      | some due => waitFor reached n { w with clock := max w.clock due }.settle

/-- Lets time pass until something has come about, or no parked call is left to wait for. -/
def waitUntil (w : World) (reached : World → Bool) : World :=
  let w := w.settle
  waitFor reached w.workBound w

/-- Lets time pass until the event of a call is delivered. -/
def await (w : World) (ticket : Nat) : World := w.waitUntil (·.isDelivered ticket)

end World

end Coordination
