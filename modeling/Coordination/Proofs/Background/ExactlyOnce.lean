import Coordination.Proofs.Background.Scheduling

/-!
# Exactly one event for each call

A background call that was accepted is in one place at all times. When its client has been shut down
and nobody has anything left to do, all other places are empty but the caller's, so exactly one
event has been delivered for it by then; and the event is about the call, since a call stays the
call that it is on its way.

## Main definitions

* `World.IsShut`: a client's processor has been shut down
* `World.placesOf`: the places where a call is

## Main results

* `World.Accounted.placesOf_eq`: a call is in one place
* `World.IsAtRest.exists_delivery`: a call of a client that was shut down ends with its caller
* `World.Reached.exactlyOnce`: every call that is accepted comes back exactly once
* `World.unscheduled_of_hurried`: due times of calls that were given up stay behind
-/

namespace Coordination

namespace World

variable {w w' w'' : World} {k n : Nat} {m : Member} {marks marks' : List Mark} {x y : Item}
  {c : Call}

/-- Whether a client's processor has been shut down. -/
def IsShut (w : World) (k : Nat) : Prop :=
  ∃ m, w.members[k]? = some m ∧ m.processor.gateOpen = false

/-- The places where a call is. -/
def placesOf (w : World) (ticket : Nat) : Multiset Item := w.items.filter (·.ticket = ticket)

/-- A call is in one place. -/
theorem Accounted.placesOf_eq (hw : w.Accounted) (hx : x ∈ w.items) :
    w.placesOf x.ticket = {x} := by
  have hcard : (w.placesOf x.ticket).card = 1 := by
    -- among the numbers of all items each number is there once
    have hcount := Multiset.count_map Item.ticket w.items x.ticket
    rw [hw.tickets, Multiset.count_eq_one_of_mem (Multiset.nodup_range _)
      (Multiset.mem_range.mpr (hw.ticket_lt hx))] at hcount
    simpa only [placesOf, eq_comm] using hcount.symm
  obtain ⟨y, hy⟩ := Multiset.card_eq_one.mp hcard
  have hmem : x ∈ w.placesOf x.ticket := Multiset.mem_filter.mpr ⟨hx, rfl⟩
  rw [hy] at hmem
  rw [hy, Multiset.mem_singleton.mp hmem]

theorem Steps.exists_isOf (hw : w.Accounted) (h : w.Steps marks w') (hc : ∃ x ∈ w.items, x.IsOf c) :
    ∃ x ∈ w'.items, x.IsOf c := by
  induction h with
  | refl => exact hc
  | tail h h' ih => exact ((hw.steps h).step h').exists_isOf ih

/-! ## At rest -/

/-- When nobody has anything to do, a processor that has been shut down has stopped. -/
theorem IsAtRest.phase_eq_stopped (h : w.IsAtRest) (hw : w.Sound) (hm : w.members[k]? = some m)
    (hgate : m.processor.gateOpen = false) : m.processor.phase = .stopped := by
  cases hstep : m.processor.step? (fun _ _ => none) w.clock with
  | none => exact (hw.processors k m hm).phase_eq_stopped hgate hstep
  | some y => exact absurd (.process hm (by simp) hstep) (h _ _)

/-- When nobody has anything to do, no reply is on its way. -/
theorem IsAtRest.incoming_eq_nil (h : w.IsAtRest) : w.incoming = [] := by
  cases hincoming : w.incoming with
  | nil => rfl
  | cons r rest =>
    have hfirst : w.incoming = [] ++ r :: rest := hincoming
    exact absurd (.receive hfirst) (h _ _)

/-- When nobody has anything to do, no reply is held back. -/
theorem IsAtRest.held_eq_nil (h : w.IsAtRest) (hm : w.members[k]? = some m) : m.held = [] := by
  cases hheld : m.held with
  | nil => rfl
  | cons x rest =>
    refine absurd (.release (k := k) ?_) (h _ _)
    simp only [release, hm, Option.map_some, hheld]

/-- When nobody has anything to do, no thread has a delivery to make. -/
theorem IsAtRest.queue_eq_nil {i : Nat} {z : Worker} (h : w.IsAtRest) (hw : w.Sound)
    (hz : w.workers[i]? = some z) : z.queue = [] := by
  have hnone : w.stepWorker? i = none := by
    cases hstep : w.stepWorker? i with
    | none => rfl
    | some w' => exact absurd (.deliver hstep) (h _ _)
  cases hqueue : z.queue with
  | nil => rfl
  | cons y rest =>
    obtain ⟨k, d⟩ := y
    simp only [stepWorker?, hz, hqueue] at hnone
    split at hnone
    · cases hnone
    · rename_i m hm
      split at hnone
      · rename_i hwaits
        -- the processor that the thread waits for has ended
        obtain ⟨k', d', queue, m', hqueue', hm', hgate⟩ :=
          hw.waiting z (List.mem_of_getElem? hz) hwaits
        obtain ⟨⟨rfl, -⟩, -⟩ : ((k, d) = (k', d')) ∧ rest = queue := by
          simpa [hqueue] using hqueue'
        obtain rfl : m = m' := by simpa [hm] using hm'
        have hended : m.processor.hasEnded := by
          simp [Processor.hasEnded, h.phase_eq_stopped hw hm hgate]
        simp [hended] at hnone
      · split at hnone <;> cases hnone

/-- What a client's processor has are calls of the client. -/
theorem client_of_mem_processor {p : Processor} (hx : x ∈ p.items k) (hc : x.IsOf c) :
    c.client = k := by
  rcases Multiset.mem_add.mp hx with hx | hx
  · generalize p.queue = queue at hx
    induction queue with
    | nil => cases Multiset.notMem_zero _ hx
    | cons m queue ih =>
      rcases Multiset.mem_add.mp hx with hx | hx
      · cases m with
        | submit | completed =>
          obtain rfl := Multiset.mem_singleton.mp hx
          exact congrArg Call.client hc.1.symm
        | shutdown => cases Multiset.notMem_zero _ hx
      · exact ih hx
  · obtain ⟨⟨id, j, reply⟩, -, rfl⟩ := List.mem_map.mp hx
    exact congrArg Call.client hc.1.symm

/-- **When nobody has anything to do, the events of a client that was shut down are delivered.** -/
theorem IsAtRest.exists_delivery (h : w.IsAtRest) (hw : w.Sound) (hx : x ∈ w.items) (hc : x.IsOf c)
    (hshut : w.IsShut c.client) :
    ∃ e log, x = .delivered c.ticket e ∧ w.calls[c.ticket]? = some log ∧ e ∈ log.deliveries := by
  simp only [items, Multiset.mem_add, mem_gather] at hx
  -- the processor has stopped, no reply is on its way and no thread has a delivery to make
  rcases hx with ((⟨k, m, hm, hx⟩ | hx) | ⟨i, z, hz, hx⟩) | ⟨n, log, hlog, hx⟩
  · rw [Member.items, h.held_eq_nil hm, Multiset.mem_add] at hx
    rcases hx with hx | hx
    · obtain rfl := client_of_mem_processor hx hc
      obtain ⟨m', hm', hgate⟩ := hshut
      obtain rfl : m = m' := by simpa [hm] using hm'
      rw [(hw.processors _ m hm).items_of_stopped (h.phase_eq_stopped hw hm hgate)] at hx
      cases Multiset.notMem_zero _ hx
    · cases hx
  · rw [h.incoming_eq_nil] at hx
    cases hx
  · rw [Worker.items, h.queue_eq_nil hw hz] at hx
    cases hx
  · obtain ⟨e, he, rfl⟩ := List.mem_map.mp hx
    obtain ⟨rfl, -⟩ := hc
    exact ⟨e, log, rfl, hlog, he⟩

/-- The events that are delivered for a call are among its places. -/
theorem deliveries_le_placesOf {log : CallLog} (hlog : w.calls[n]? = some log) :
    log.items n ≤ w.placesOf n := by
  refine Multiset.le_filter.mpr ⟨?_, fun x hx => ?_⟩
  · exact (le_gather (f := fun n (c : CallLog) => c.items n) hlog).trans (Multiset.le_add_left ..)
  · obtain ⟨e, -, rfl⟩ := List.mem_map.mp hx
    rfl

/-- An event that has been delivered for a call is the only one. -/
theorem Accounted.deliveries_eq {e : Event} {log : CallLog} (hw : w.Accounted)
    (hlog : w.calls[n]? = some log) (he : e ∈ log.deliveries) : log.deliveries = [e] := by
  have hx : .delivered n e ∈ w.items :=
    Multiset.mem_of_le (le_gather (f := fun n (c : CallLog) => c.items n) hlog |>.trans
      (Multiset.le_add_left ..)) (List.mem_map_of_mem he)
  -- another event would be another place
  have hcard := Multiset.card_le_card (deliveries_le_placesOf hlog)
  rw [show w.placesOf n = _ from hw.placesOf_eq hx, CallLog.items, Multiset.coe_card,
    List.length_map, Multiset.card_singleton] at hcard
  obtain ⟨e', hlogged⟩ : ∃ e', log.deliveries = [e'] :=
    List.length_eq_one_iff.mp (Nat.le_antisymm hcard (List.length_pos_of_mem he))
  rw [hlogged] at he ⊢
  rw [List.mem_singleton.mp he]

/-- **Every call that is accepted comes back exactly once**, in every world that comes about while
all delays that are asked for lead to instants, as `Progress.process` demands. At all times it is in
exactly one place, and when its client has been shut down and nobody has anything left to do,
exactly one event has been delivered for it, which is about it. A call that is refused leaves
nothing behind. Every parked call has a due time, and there are no others while the processor is
running or has messages left. -/
theorem Reached.exactlyOnce (h : Reached marks w) :
    w.items.map Item.ticket = Multiset.range w.calls.length ∧
    ∀ (k : Nat) (m : Member), w.members[k]? = some m →
      (m.processor.phase = .running ∨ m.processor.queue ≠ [] → m.processor.IsScheduled) ∧
      m.processor.IsTimed ∧
      ∀ payload mode,
        (∀ f w', w.enqueue k m payload mode = (.error f, w') →
          f = .shuttingDown ∧ w' = w ∧ w.IsShut k) ∧
        ∀ n w₁, w.enqueue k m payload mode = (.ok n, w₁) → ∀ later w₂, w₁.Steps later w₂ →
          (∃ x, w₂.placesOf n = {x} ∧ x.IsOf ⟨k, n, payload, mode⟩) ∧
          (w₂.IsShut k → w₂.IsAtRest → ∃ e log, w₂.placesOf n = {.delivered n e} ∧
            w₂.calls[n]? = some log ∧ log.deliveries = [e] ∧
            e.type = payload.type ∧ e.path = payload.path? ∧ e.context = mode.context) := by
  have hw := h.accounted
  refine ⟨hw.tickets, fun k m hm => ⟨(hw.sound.processors k m hm).scheduled,
    (hw.sound.processors k m hm).timed, fun payload mode => ⟨?_, ?_⟩⟩⟩
  · intro f w' hf
    obtain ⟨rfl, rfl, hgate⟩ := hw.sound.enqueue_eq_error hm hf
    exact ⟨rfl, rfl, m, hm, hgate⟩
  · intro n w₁ hn later w₂ hlater
    obtain ⟨-, hmoves, hqueued⟩ := hw.sound.enqueue_eq_ok hm hn
    have hw₁ := hw.of_moves hmoves
    have hw₂ := hw₁.steps hlater
    obtain ⟨x, hx, hxc⟩ := hlater.exists_isOf hw₁ hqueued
    have hticket : x.ticket = n := hxc.ticket_eq
    have hplaces : w₂.placesOf n = {x} := hticket ▸ hw₂.placesOf_eq hx
    refine ⟨⟨x, hplaces, hxc⟩, fun hshut hrest => ?_⟩
    obtain ⟨e, log, rfl, hlog, he⟩ := hrest.exists_delivery hw₂.sound hx hxc hshut
    refine ⟨e, log, hplaces, hlog, ?_, hxc.2.1.1, hxc.2.1.2, hxc.2.2⟩
    -- no other event has been delivered, for it would be another place
    have hcard := Multiset.card_le_card (deliveries_le_placesOf hlog)
    rw [hplaces, CallLog.items, Multiset.coe_card, List.length_map, Multiset.card_singleton]
      at hcard
    obtain ⟨e', hlogged⟩ : ∃ e', log.deliveries = [e'] := by
      refine List.length_eq_one_iff.mp (Nat.le_antisymm hcard ?_)
      exact List.length_pos_of_mem he
    rw [hlogged] at he ⊢
    rw [List.mem_singleton.mp he]

/-! ## A call that is caught by the shutdown -/

/-- A client with nothing to do. -/
def caller : Member :=
  { session := ⟨1, []⟩
    tampering := .none
    client :=
      { config := .trial, space := .whole, rootEnsurer := .ofConfig .trial .whole,
        ensurer := .ofConfig .trial .whole, closed := false, sleeps := [] }
    processor := .initial
    held := []
    eventListeners := []
    errorListeners := [] }

/-- A world with the client, in which the next request will be lost. -/
def attended : World :=
  { initial with
    store := (Store.initial.connect []).2.failNext .connectionLoss 1
    members := [caller] }

/-- What the client sends. -/
def errand : Payload := .single (.create "/x" ByteArray.empty .worldOpen .persistent) "/x"

/-- What it gives along. -/
def labelled : Mode := { Mode.inBackground with context := some (.number 7) }

/-- The world with the call. -/
def called : World := (attended.enqueue 0 caller errand labelled).2

/-- The world in which the call waits to be sent again, its client having been shut down. -/
def hurried : World := (settleFor 3 called).beginClose 0

/-- The client may as well have another policy. -/
theorem reached_of_policy (policy : RetryPolicy) :
    Reached []
      { attended with
        members :=
          [{ caller with
              client :=
                { caller.client with config := { Config.trial with policy } } }] } := by
  have hconnected : initial.Step [] { initial with store := attended.store } :=
    .elsewhere ⟨Nat.le_refl _, rfl, rfl, rfl, rfl⟩
  have hstarted : ({ initial with store := attended.store } : World).Step [] _ :=
    .start (s := ⟨1, []⟩) (t := .none) (c := { Config.trial with policy }) (k := 0) rfl
  exact (Steps.refl.tail hconnected).tail hstarted

theorem reached_attended : Reached [] attended := reached_of_policy (.nTimes 5 (.ofMillis 1))

/-- The client is shut down while its call waits, -/
theorem steps_hurried : ∃ later, called.Steps later hurried := by
  have hwaits := steps_settleFor_of_nTimes 3 called 5 (.ofMillis 1) (by decide +kernel)
  exact ⟨_, hwaits.tail (.shutdown 0)⟩

/-- and everything that is left to do is done. -/
theorem steps_settleFor_hurried {n : Nat} (hn : n ≤ 6) :
    ∃ later, called.Steps later (settleFor n hurried) := by
  have htimely : ∀ i < 6, (∀ m ∈ (settleFor i hurried).members,
      m.client.config.policy = .nTimes 5 (.ofMillis 1)) ∧
        (settleFor i hurried).clock + (Duration.ofMillis 1).nanos < Processor.instantLimit := by
    decide +kernel
  have hsettles := steps_settleFor_of_nTimes n hurried 5 (.ofMillis 1) fun i hi =>
    htimely i (Nat.lt_of_lt_of_le hi hn)
  obtain ⟨later, hlater⟩ := steps_hurried
  exact ⟨_, hlater.trans hsettles⟩

/-- The call ends with the error that it met, and its event is delivered once. -/
theorem exactlyOnce_of_hurried :
    Reached [] attended ∧ attended.enqueue 0 caller errand labelled = (.ok 0, called) ∧
      (∃ later, called.Steps later (settleFor 6 hurried)) ∧ (settleFor 6 hurried).IsShut 0 ∧
      (settleFor 6 hurried).IsAtRest ∧
      ∃ e log, (settleFor 6 hurried).placesOf 0 = {.delivered 0 e} ∧
        (settleFor 6 hurried).calls[0]? = some log ∧ log.deliveries = [e] ∧
        e =
          { Event.failed .create (some "/x") .connectionLoss with
            context := some (.number 7) } := by
  have hshut : (settleFor 6 hurried).IsShut 0 := by
    have hgate : ((settleFor 6 hurried).members[0]?).map (·.processor.gateOpen) = some false := by
      decide +kernel
    exact Option.map_eq_some_iff.mp hgate
  have hrest : (settleFor 6 hurried).IsAtRest := by
    refine isAtRest_of_step?_eq_none ?_ (by decide +kernel)
    exact Option.isNone_iff_eq_none.mp (by decide +kernel)
  have hdeliveries : ((settleFor 6 hurried).calls[0]?).map (·.deliveries) =
      some [{ Event.failed .create (some "/x") .connectionLoss with
        context := some (.number 7) }] := by
    decide +kernel
  obtain ⟨later, hlater⟩ := steps_settleFor_hurried (Nat.le_refl 6)
  obtain ⟨-, hmembers⟩ := reached_attended.exactlyOnce
  obtain ⟨-, -, hcalls⟩ := hmembers 0 caller rfl
  obtain ⟨e, log, hplaces, hlog, hdelivered, -⟩ :=
    ((hcalls errand labelled).2 0 called rfl _ _ hlater).2 hshut hrest
  refine ⟨reached_attended, rfl, ⟨_, hlater⟩, hshut, hrest, e, log, hplaces, hlog, hdelivered, ?_⟩
  rw [hlog, Option.map_some, hdelivered] at hdeliveries
  exact List.singleton_inj.mp (Option.some.inj hdeliveries)

/-- When the processor has given the call up, its due time is still there. -/
theorem unscheduled_of_hurried :
    (∃ marks, Reached marks (settleFor 2 hurried)) ∧
      ∃ m, (settleFor 2 hurried).members[0]? = some m ∧ m.processor.phase = .draining ∧
        m.processor.parked.keys = [] ∧ m.processor.due.map Prod.snd = [0] ∧
        ¬m.processor.IsScheduled := by
  constructor
  · have haccepted : attended.Step [] called := .accept (k := 0) (n := 0) (m := caller) rfl rfl
    obtain ⟨later, hlater⟩ := steps_settleFor_hurried (n := 2) (by decide)
    exact ⟨_, (reached_attended.tail haccepted).trans hlater⟩
  · have hmember : ((settleFor 2 hurried).members[0]?).map (fun m =>
        (m.processor.phase, m.processor.parked.keys, m.processor.due.map Prod.snd)) =
          some (.draining, [], [0]) := by
      decide +kernel
    obtain ⟨m, hm, heq⟩ := Option.map_eq_some_iff.mp hmember
    obtain ⟨hphase, hrest⟩ := Prod.mk.inj heq
    obtain ⟨hparked, hdue⟩ := Prod.mk.inj hrest
    refine ⟨m, hm, hphase, hparked, hdue, fun hscheduled => ?_⟩
    -- there is one due time more than there are calls
    rw [Processor.IsScheduled, hparked, hdue] at hscheduled
    exact absurd hscheduled.eq_nil (List.cons_ne_nil 0 [])

end World

end Coordination
