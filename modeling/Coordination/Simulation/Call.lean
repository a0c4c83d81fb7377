import Coordination.Simulation.Schedule

/-!
# Calls

What a caller does with a client of a world: it runs operations and transactions, at once or in the
background, waits for events, and closes the client. A background call is prepared as one in the
foreground, so that both are refused for the same reasons.
-/

namespace Coordination

/-- What a call comes to for the moment. -/
inductive Submission (α : Type) where
  /-- It has been run. -/
  | completed (a : α)
  /-- It is on its way, under a number. -/
  | queued (ticket : Nat)

/-- What has been told about a call since the last report. -/
structure Report where
  /-- Whether the event has been delivered. -/
  arrived : Bool
  /-- What the callback has been told, and where. -/
  events : List (Event × Thread)
  /-- What the call's error listener has been told, if there is one. -/
  callErrors : Option (List Notice)
  /-- What each of the client's listeners has been told, and where. -/
  listenerEvents : List (List (Event × Thread))
  /-- What each of the client's error listeners has been told. -/
  clientErrors : List (List Notice)

namespace World

/-! ## Background calls -/

/-- Queues a prepared call. A call of a client that is not connected is decided already. -/
def enqueue (w : World) (k : Nat) (m : Member) (payload : Payload) (mode : Mode) :
    Except Failure Nat × World :=
  let decided :=
    if w.store.isConnected m.session then none
    else some (Event.failed payload.type payload.path? .sessionExpired)
  let ticket := w.calls.length
  match m.processor.enqueue? (.fresh ticket payload mode decided) with
  | none => (.error .shuttingDown, w)
  | some processor =>
    let log : CallLog :=
      { hasListener := mode.errorListener.isSome, events := [], errors := [], deliveries := [] }
    (.ok ticket, { w with calls := w.calls ++ [log] }.updateMember k fun m => { m with processor })

/-- Queues a call unless it is refused. -/
def enqueuePrepared (w : World) (k : Nat) (m : Member) (payload : Except Failure Payload)
    (mode : Mode) : Except Failure Nat × World :=
  match m.client.checkOpen, payload with
  | .error f, _ | _, .error f => (.error f, w)
  | .ok (), .ok payload => w.enqueue k m payload mode

/-! ## Operations and transactions -/

/-- Runs an operation. -/
def execute (w : World) (k : Nat) (m : Member) (o : Operation) (mode : Mode) :
    Except Failure (Submission Answer) × World :=
  if mode.background then
    let payload := (m.client.prepare o).map fun r => Payload.single r o.path
    let (result, w) := w.enqueuePrepared k m payload mode
    (result.map .queued, w)
  else
    let (result, w) := w.foreground k m fun link c s => c.execute link o s
    (result.map .completed, w)

/-- Runs a transaction. -/
def submit (w : World) (k : Nat) (m : Member) (os : List Operation) (mode : Mode) :
    Except Failure (Submission (List Outcome)) × World :=
  if mode.background then
    let (result, w) := w.enqueuePrepared k m ((m.client.prepareBatch os).map .batch) mode
    (result.map .queued, w)
  else
    let (result, w) := w.foreground k m fun link c s => c.submit link os s
    (result.map .completed, w)

/-- Ensures a path over a client's line with an ensurer of the caller's own. -/
def ensureWith (w : World) (k : Nat) (m : Member) (e : Ensurer) (p : String) :
    (Except Failure Unit × Ensurer) × World :=
  w.foreground k m fun link c s =>
    let (result, e, sleeps, s) := e.ensure link c.config p s
    ((result, e), c.slept sleeps, s)

/-! ## Closing -/

/-- Closes a client: what is queued is handed on before the session is closed. -/
def close (w : World) (k : Nat) : World :=
  match w.members[k]? with
  | none => w
  | some m => if m.client.closed then w else (((w.beginClose k).settle).endClose k).settle

/-! ## Reports -/

/-- What has been told about a call, and to the client's listeners, since the last report. -/
def report (w : World) (k ticket : Nat) : Report × World :=
  let call := w.calls[ticket]?
  let member := w.members[k]?
  let r : Report :=
    { arrived := w.isDelivered ticket
      events := (call.map (·.events)).getD []
      callErrors := call.bind fun c => if c.hasListener then some c.errors else none
      listenerEvents := ((member.map (·.eventListeners)).getD []).map (·.seen)
      clientErrors := ((member.map (·.errorListeners)).getD []).map (·.seen) }
  let w := w.updateCall ticket fun c => { c with events := [], errors := [] }
  (r, w.updateMember k fun m =>
    { m with
      eventListeners := m.eventListeners.map fun l => { l with seen := [] }
      errorListeners := m.errorListeners.map fun l => { l with seen := [] } })

end World

end Coordination
