import Coordination.Simulation.World

/-!
# Delivering events

What a world comes to when the event of a call is brought on its way: it is handed to a thread for
callbacks, or the thread that has it runs the callback itself. What is told then is noted, and a
callback may close its client or call it again before.
-/

namespace Coordination

namespace World

/-! ## Telling -/

/-- Notes what somebody is told about a call of a client on a thread. -/
def tell (k ticket : Nat) (t : Thread) (w : World) : Telling → World
  | .callback e => w.updateCall ticket fun c => { c with events := c.events ++ [(e, t)] }
  | .callError n => w.updateCall ticket fun c => { c with errors := c.errors ++ [n] }
  | .listener i e =>
    w.updateMember k fun m =>
      { m with
        eventListeners := m.eventListeners.modify i fun l => { l with seen := l.seen ++ [(e, t)] } }
  | .clientError i n =>
    w.updateMember k fun m =>
      { m with
        errorListeners := m.errorListeners.modify i fun l => { l with seen := l.seen ++ [n] } }

/-- Notes everything that a delivery comes to. -/
def note (w : World) (k : Nat) (t : Thread) (d : Delivery) : World :=
  match w.members[k]? with
  | none => w
  | some m =>
    let tellings := d.tellings (m.eventListeners.map (·.fault)) m.errorListeners.length
    (tellings.foldl (tell k d.ticket t) w).updateCall d.ticket fun c =>
      { c with deliveries := c.deliveries ++ [d.event] }

/-- What a callback does to its client before it takes note of the event. A callback that closes the
client does not wait here for the processor to end. -/
def react (w : World) (k : Nat) (m : Member) : Reaction → World
  | .close => if m.client.closed then w else (w.beginClose k).endClose k
  | .execute o => (w.foreground k m fun link c s => c.execute link o s).2
  | _ => w

/-- Makes a delivery on a thread. -/
def run (w : World) (k : Nat) (t : Thread) (d : Delivery) : World :=
  match w.members[k]?, d.callback with
  | some m, some r => (w.react k m r).note k t d
  | _, _ => w.note k t d

/-- Hands a delivery to a thread for callbacks. -/
def handOver (w : World) (id : WorkerId) (k : Nat) (d : Delivery) : World :=
  if w.workers.any (·.id == id) then
    { w with
      workers := w.workers.map fun x =>
        if x.id == id then { x with queue := x.queue ++ [(k, d)] } else x }
  else { w with workers := w.workers ++ [{ id, queue := [(k, d)], waits := false }] }

/-- Brings the event of a call on its way, thread `t` having it. -/
def deliver (w : World) (k : Nat) (t : Thread) (j : Job) (e : Event) : World :=
  let d := j.delivery e
  match j.mode.executor with
  | none => w.handOver (.ofClient k) k d
  | some x =>
    match x.taker? with
    | none => w.run k t d
    | some name => w.handOver (.named name) k d

end World

end Coordination
