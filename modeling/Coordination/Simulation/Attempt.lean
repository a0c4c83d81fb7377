import Coordination.Simulation.Delivering

/-!
# Attempts

One attempt at a background call, from the processor to the store and back: the processor asks the
store, the reply comes in on the session's thread, and the processor parks the call or finishes it.
A line to the store may hold replies back until the caller lets them go.
-/

namespace Coordination

namespace World

/-! ## Replies -/

/-- Finishes a call with its reply. An answer that does not fit is reported before the call's event
says so. -/
def finish (w : World) (k : Nat) (t : Thread) (j : Job) (reply : StoreReply) : World :=
  match w.members[k]? with
  | none => w
  | some m =>
    match j.event m.client.space reply with
    | .ok e => w.deliver k t j e
    | .error f =>
      let tellings :=
        Telling.report j.mode.errorListener m.errorListeners.length
          ⟨"could not translate background result", f⟩
      (tellings.foldl (tell k j.ticket t) w).deliver k t j (j.failedEvent .runtimeInconsistency)

/-- Brings a reply to the processor, or finishes the call here if the gate is closed. -/
def complete (w : World) (k : Nat) (t : Thread) (j : Job) (reply : StoreReply) : World :=
  match w.members[k]? with
  | none => w
  | some m =>
    match m.processor.complete? j reply with
    | some processor => w.updateMember k fun m => { m with processor }
    | none => w.finish k t j reply

/-- What the client sees of a reply. -/
def tampered (t : Tampering) : StoreReply → StoreReply × Tampering
  | .single result => let (result, t) := t.single result; (.single result, t)
  | .batch result => let (result, t) := t.batch result; (.batch result, t)

/-- A reply comes in on its session's thread; it may be held back. -/
def receive (w : World) (r : IncomingReply) : World :=
  match w.members[r.client]? with
  | none => w
  | some m =>
    let (reply, tampering) := tampered m.tampering r.reply
    let w := w.updateMember r.client fun m => { m with tampering }
    if tampering.holds then
      w.updateMember r.client fun m => { m with held := m.held ++ [(r.job, reply)] }
    else w.complete r.client .io r.job reply

/-- The caller lets go the first reply that is held back, if there is one. -/
def release (w : World) (k : Nat) : Bool × World :=
  match (w.members[k]?).map (·.held) with
  | some ((j, reply) :: held) =>
    (true, (w.updateMember k fun m => { m with held }).complete k .main j reply)
  | _ => (false, w)

/-! ## The processor's work -/

/-- Asks the store; the reply comes in later. -/
def send (w : World) (k : Nat) (m : Member) (j : Job) : World :=
  match j.payload with
  | .single r _ =>
    let (result, store) := w.store.submit m.session r
    { w with store, incoming := w.incoming ++ [⟨k, j, .single result⟩] }
  | .batch b =>
    let (result, store) := w.store.multi m.session b.requests
    { w with store, incoming := w.incoming ++ [⟨k, j, .batch result⟩] }

/-- Ensures the root of a client's namespace in one attempt. -/
def ensureRootOnce : Work (Except Failure Unit) := fun link c s =>
  match c.space.root with
  | none => (.ok (), c, s)
  | some root =>
    let (result, rootEnsurer, s) := c.rootEnsurer.ensureOnce link root s
    (result, { c with rootEnsurer }, s)

/-- Makes one attempt at a call on the processor's thread. A root that could not be ensured counts
like a request that met the same error, if that is worth a retry. -/
def perform (w : World) (k : Nat) (j : Job) : World :=
  match w.members[k]? with
  | none => w
  | some m =>
    match j.decided with
    | some e => w.deliver k (.processor k) j e
    | none =>
      let j := j.begun w.clock
      match w.foreground k m ensureRootOnce with
      | (.ok (), w) => w.send k m j
      | (.error (.store e), w) =>
        if e.isRetryable then w.complete k (.processor k) j (j.payload.refused e)
        else w.deliver k (.processor k) j (j.failedEvent e.code)
      | (.error f, w) =>
        w.deliver k (.processor k) j (j.failedEvent (f.code?.getD .runtimeInconsistency))

/-- Does what a processor asks for, on its thread. -/
def act (w : World) (k : Nat) : Action → World
  | .none => w
  | .perform j => w.perform k j
  | .finish j reply => w.finish k (.processor k) j reply

/-- A processor takes its next step, if it does not have to wait. -/
def stepProcessor? (w : World) (k : Nat) : Option World :=
  match w.members[k]? with
  | none => none
  | some m =>
    match m.processor.step? (Job.delay? m.client.config.policy.rule w.die w.clock) w.clock with
    | none => none
    | some (action, processor) =>
      some ((w.updateMember k fun m => { m with processor }).act k action)

end World

end Coordination
