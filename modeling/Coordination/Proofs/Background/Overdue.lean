import Coordination.Proofs.Background.Closing
import Coordination.Proofs.Background.Deaths

/-!
# Delays beyond the last instant

A call that has to wait is parked until an instant. As long as the delay leads to an instant its
length does not matter: the call waits among the others, the processor goes on, and once the client
is shut down the call comes back. But instants end somewhere. A delay that leads beyond the last of
them is the end of the processor, and every call that the processor has at that moment is lost: no
event is ever delivered for it, whatever happens later, and the client takes no more calls.

## Main definitions

* `World.Postpones`: a call is parked, and nothing is lost by it
* `World.Forfeits`: the calls of a processor are lost for good

## Main results

* `World.Reached.waits_or_is_lost`: a call that has to wait is postponed if its delay leads to an
  instant, and is lost otherwise
-/

namespace Coordination

namespace World

variable {w w' : World} {k : Nat} {m : Member} {marks : List Mark} {j : Job} {reply : StoreReply}

/-! ## A call that has to wait -/

/-- When nobody has anything to do, exactly one event has been delivered for a call of a client that
was shut down. -/
theorem Accounted.exists_deliveries_eq {x : Item} {c : Call} (hw : w.Accounted) (hx : x ∈ w.items)
    (hc : x.IsOf c) (hshut : w.IsShut c.client) (hrest : w.IsAtRest) :
    ∃ e log, w.calls[c.ticket]? = some log ∧ log.deliveries = [e] ∧ c.Fits e := by
  obtain ⟨e, log, rfl, hlog, he⟩ := hrest.exists_delivery hw.sound hx hc hshut
  exact ⟨e, log, hlog, hw.deliveries_eq hlog he, hc.2⟩

/-- Whether a call that came back to its processor has been parked between two worlds, and nothing
is lost by it. -/
structure Postpones (w : World) (k : Nat) (j : Job) (reply : StoreReply) (w' : World) : Prop where
  /-- It is parked, and the other calls stay where they are. -/
  parked : ∃ rest, w.items = .answered k j reply ::ₘ rest ∧ w'.items = .parked k j reply ::ₘ rest
  /-- The processor goes on, and its gate stays as it was. -/
  running : ∃ m m', w.members[k]? = some m ∧ w'.members[k]? = some m' ∧
    m'.processor.phase = .running ∧ m'.processor.gateOpen = m.processor.gateOpen
  /-- Once the client has been shut down and nobody has anything left to do, exactly one event has
  been delivered for the call, and it is about it. -/
  delivered : ∀ later w'', w'.Steps later w'' → w''.IsShut k → w''.IsAtRest →
    ∃ e log, w''.calls[j.ticket]? = some log ∧ log.deliveries = [e] ∧ (j.call k).Fits e

/-- Whether a world is left for good by the calls that a client's processor had in an earlier one.
Whatever happens later, no event has been delivered for any of them, and the client takes no more
calls. -/
def Forfeits (w : World) (k : Nat) (w' : World) : Prop :=
  ∀ m, w.members[k]? = some m → ∀ w'', Relation.ReflTransGen Stride w' w'' →
    (∀ x ∈ m.processor.items k, ∃ log, w''.calls[x.ticket]? = some log ∧ log.deliveries = []) ∧
    ∃ m', w''.members[k]? = some m' ∧ m'.processor.phase = .dead ∧
      ∀ payload mode, w''.enqueue k m' payload mode = (.error .shuttingDown, w'')

/-- A call whose delay leads to an instant is postponed. -/
theorem Accounted.postpones {queue : List Message} (due : Nat) (hw : w.Accounted)
    (hm : w.members[k]? = some m) (hphase : m.processor.phase = .running)
    (hqueue : m.processor.queue = .completed j reply :: queue) :
    w.Postpones k j reply
      (w.updateMember k fun m' =>
        { m' with processor := ({ m.processor with queue } : Processor).park due j reply }) := by
  have hp := hw.sound.processors k m hm
  have hpop := hp.pop hqueue (by simp)
  have hbefore := Processor.items_of_queue hqueue k
  rw [Message.items, Multiset.singleton_add] at hbefore
  have hcarries := hw.sound.carries_park hm (hpop.park hphase due j reply) rfl hbefore
    (Processor.items_park hpop.next_free)
  obtain ⟨rest, hw_items, hitems⟩ := hcarries.items
  obtain ⟨c, ⟨hcall, hhonest⟩, -⟩ := hw.owned (.answered k j reply) (hw_items ▸ by simp)
  subst hcall
  have hw' := hw.of_moves (hcarries.moves .parked)
  refine ⟨⟨rest, hw_items, hitems⟩, ?_, fun later w'' hlater hshut hrest => ?_⟩
  · have hm' := List.getElem?_modify_eq
      (fun m' => { m' with processor := ({ m.processor with queue } : Processor).park due j reply })
      k w.members
    rw [hm] at hm'
    exact ⟨m, _, hm, hm', hphase, rfl⟩
  · obtain ⟨x, hx, hxc⟩ := hlater.exists_isOf hw' (c := j.call k)
      ⟨.parked k j reply, hitems ▸ Multiset.mem_cons_self .., rfl, hhonest⟩
    exact (hw'.steps hlater).exists_deliveries_eq hx hxc hshut hrest

/-- A processor that dies takes its calls with it. -/
theorem Accounted.abandons_of_die {p : Processor} {x : Item} (hw : w.Accounted)
    (hm : w.members[k]? = some m) (hx : x ∈ m.processor.items k) :
    (w.updateMember k fun m => { m with processor := p.die }).Abandons k x.ticket := by
  refine ⟨⟨{ m with processor := p.die }, getElem?_updateMember hm _, rfl⟩, ?_⟩
  have hitems := items_updateMember hm fun m => { m with processor := p.die }
  -- the calls of the processor are those that are gone
  have hsplit : w.items =
      m.processor.items k + (w.updateMember k fun m => { m with processor := p.die }).items := by
    have hdead : p.die.items k = 0 := by
      simp [Processor.die, Processor.items, Processor.queueItems, Processor.parkedItems]
    simp only [Member.items, hdead, zero_add] at hitems
    refine add_left_cancel (a := (↑(m.held.map fun x => Item.flying k x.1 x.2) : Multiset Item)) ?_
    rw [← hitems]
    ac_rfl
  refine hasLost_of_forall_ne (hw.ticket_lt (hsplit ▸ Multiset.mem_add.mpr (.inl hx)))
    fun y hy heq => ?_
  have hnodup : (w.items.map Item.ticket).Nodup := hw.tickets ▸ Multiset.nodup_range _
  rw [hsplit, Multiset.map_add, Multiset.nodup_add] at hnodup
  exact Multiset.disjoint_left.mp hnodup.2.2 (Multiset.mem_map_of_mem _ hx)
    (heq ▸ Multiset.mem_map_of_mem _ hy)

/-- A call whose delay leads beyond the last instant is lost, with the others of its processor. -/
theorem Accounted.forfeits {p : Processor} {x : Item} (hw : w.Accounted)
    (hm : w.members[k]? = some m) (hx : x ∈ m.processor.items k) :
    w.Forfeits k (w.updateMember k fun m => { m with processor := p.die }) := by
  intro m₀ hm₀ w'' hlater
  obtain rfl : m = m₀ := by simpa [hm] using hm₀
  refine ⟨fun y hy => ((hw.abandons_of_die hm hy).strides hlater).lost.calls, ?_⟩
  obtain ⟨m', hm', hdead⟩ := ((hw.abandons_of_die hm hx).strides hlater).dead
  exact ⟨m', hm', hdead, fun payload mode => enqueue_of_dead hdead⟩

/-- **A call that has to wait comes back if its delay leads to an instant**, however long it is.
**If the delay leads beyond the last instant, the call is lost**, and so is every other call that
its processor has, whatever the policies ask for later. -/
theorem Reached.waits_or_is_lost {queue : List Message}
    {delay? : Job → StoreReply → Option Duration} {wait : Duration} (h : Reached marks w)
    (hm : w.members[k]? = some m) (hphase : m.processor.phase = .running)
    (hdue : m.processor.dueNow? w.clock = none)
    (hqueue : m.processor.queue = .completed j reply :: queue)
    (hwait : delay? j reply = some wait) :
    ∃ processor w', m.processor.step? delay? w.clock = some (.none, processor) ∧
      w' = w.updateMember k (fun m => { m with processor }) ∧
      (w.Postpones k j reply w' ↔ w.clock + wait.nanos < Processor.instantLimit) ∧
      (w.Forfeits k w' ↔ Processor.instantLimit ≤ w.clock + wait.nanos) := by
  have hw := h.accounted
  have hstep : m.processor.step? delay? w.clock =
      some (({ m.processor with queue } : Processor).take delay? w.clock (.completed j reply)) := by
    simp only [Processor.step?, hphase, hdue, hqueue]
  simp only [Processor.take, hwait] at hstep
  have hmem : Item.answered k j reply ∈ m.processor.items k := by
    rw [Processor.items_of_queue hqueue, Message.items, Multiset.singleton_add]
    exact Multiset.mem_cons_self ..
  -- a processor that goes on is not dead, so each outcome excludes the other
  have hexcludes {w' : World} (hpostpones : w.Postpones k j reply w') : ¬w.Forfeits k w' := by
    intro hforfeits
    obtain ⟨-, m', -, hm', hrunning, -⟩ := hpostpones.running
    obtain ⟨-, m'', hm'', hdead, -⟩ := hforfeits m hm w' .refl
    obtain rfl : m' = m'' := by simpa [hm'] using hm''
    simp [hrunning] at hdead
  by_cases hfits : w.clock + wait.nanos < Processor.instantLimit
  · rw [if_pos hfits] at hstep
    have hpostpones := hw.postpones (w.clock + wait.nanos) hm hphase hqueue
    refine ⟨_, _, hstep, rfl, iff_of_true hpostpones hfits, ?_⟩
    exact iff_of_false (hexcludes hpostpones) (Nat.not_le.mpr hfits)
  · rw [if_neg hfits] at hstep
    have hforfeits := hw.forfeits (p := { m.processor with queue }) hm hmem
    refine ⟨_, _, hstep, rfl, iff_of_false (fun h => hexcludes h hforfeits) hfits, ?_⟩
    exact iff_of_true hforfeits (Nat.not_lt.mp hfits)

/-! ## A call that is lost -/

/-- A client that waits as a policy says. -/
def waiter (policy : RetryPolicy) : Member :=
  { caller with client := { caller.client with config := { Config.trial with policy } } }

/-- A world with the client, in which the next request will be lost. -/
def awaiting (policy : RetryPolicy) : World := { attended with members := [waiter policy] }

/-- The world in which the client's call has come back with the error. -/
def rebuffed (policy : RetryPolicy) : World :=
  settleFor 2 ((awaiting policy).enqueue 0 (waiter policy) errand labelled).2

/-- A policy with short waits. -/
def brief : RetryPolicy := .nTimes 5 (.ofMillis 1)

/-- A policy whose waits are the longest there are. -/
def endless : RetryPolicy := .exponential { base := .greatest, retries := 3, cap := none }

theorem reached_rebuffed (policy : RetryPolicy) (h : policy ∈ [brief, endless]) :
    ∃ marks, Reached marks (rebuffed policy) := by
  have hcalled : (awaiting policy).Step []
      ((awaiting policy).enqueue 0 (waiter policy) errand labelled).2 :=
    .accept (k := 0) (n := 0) (m := waiter policy) rfl rfl
  have halive : ∀ policy ∈ [brief, endless], ∀ i ≤ 2,
      ∀ m ∈ (settleFor i ((awaiting policy).enqueue 0 (waiter policy) errand labelled).2).members,
        m.processor.phase ≠ .dead := by
    decide +kernel
  exact ⟨_, ((reached_of_policy policy).tail hcalled).trans
    (steps_settleFor_of_survives 2 _ (halive policy h))⟩

theorem exists_member_of_rebuffed (policy : RetryPolicy) (h : policy ∈ [brief, endless]) :
    ∃ m, (rebuffed policy).members[0]? = some m ∧ m.processor.phase = .running ∧
      m.processor.dueNow? (rebuffed policy).clock = none ∧
      m.processor.queue = [.completed waiting met] := by
  have hmember : ∀ policy ∈ [brief, endless], ((rebuffed policy).members[0]?).map (fun m =>
      (m.processor.phase, (m.processor.dueNow? (rebuffed policy).clock).isNone,
        m.processor.queue)) = some (.running, true, [.completed waiting met]) := by
    decide +kernel
  obtain ⟨m, hm, heq⟩ := Option.map_eq_some_iff.mp (hmember policy h)
  obtain ⟨hphase, hrest⟩ := Prod.mk.inj heq
  obtain ⟨hdue, hqueue⟩ := Prod.mk.inj hrest
  exact ⟨m, hm, hphase, Option.isNone_iff_eq_none.mp hdue, hqueue⟩

/-- With waits of a millisecond the call is postponed, with the longest waits it is lost. -/
theorem waits_or_is_lost_of_rebuffed :
    (∃ w', (rebuffed brief).Postpones 0 waiting met w') ∧
      ∃ w', (rebuffed endless).Forfeits 0 w' := by
  constructor
  · obtain ⟨marks, hreached⟩ := reached_rebuffed brief (by simp)
    obtain ⟨m, hm, hphase, hdue, hqueue⟩ := exists_member_of_rebuffed brief (by simp)
    have hwait : Job.delay? brief.rule (rebuffed brief).die 0 waiting met = some (.ofMillis 1) := by
      decide +kernel
    obtain ⟨-, w', -, -, hpostpones, -⟩ :=
      hreached.waits_or_is_lost hm hphase hdue hqueue hwait
    exact ⟨w', hpostpones.mpr (by decide +kernel)⟩
  · obtain ⟨marks, hreached⟩ := reached_rebuffed endless (by simp)
    obtain ⟨m, hm, hphase, hdue, hqueue⟩ := exists_member_of_rebuffed endless (by simp)
    have hwait : Job.delay? endless.rule (rebuffed endless).die 0 waiting met = some .greatest := by
      decide +kernel
    obtain ⟨-, w', -, -, -, hforfeits⟩ :=
      hreached.waits_or_is_lost hm hphase hdue hqueue hwait
    exact ⟨w', hforfeits.mpr (by decide +kernel)⟩

/-- A call that came back with an error that is worth a retry, and whose policy asks for the longest
wait, is not postponed: the client takes no more calls, and when it has been closed and nobody has
anything left to do no event has been delivered for the call. -/
theorem lost_of_rebuffed_endless :
    (∃ marks, Reached marks (rebuffed endless)) ∧
      ((rebuffed endless).members[0]?).map (fun m =>
        (m.client.config.policy, m.processor.phase, m.processor.queue, m.processor.accepts)) =
          some (endless, .running, [.completed waiting met], true) ∧
      Job.delay? endless.rule (rebuffed endless).die (rebuffed endless).clock waiting met =
        some .greatest ∧
      ∃ w', (rebuffed endless).stepProcessor? 0 = some w' ∧
        ¬(rebuffed endless).Postpones 0 waiting met w' ∧
        (w'.members[0]?).map (fun m => (w'.enqueue 0 m errand labelled).1) =
          some (.error .shuttingDown) ∧
        (w'.close 0).step?.isNone ∧
        ((w'.close 0).calls[0]?).map (·.deliveries) = some [] := by
  refine ⟨reached_rebuffed endless (by simp), by decide +kernel, by decide +kernel, ?_⟩
  have hstep : ((rebuffed endless).stepProcessor? 0).map (fun w' =>
      ((w'.members[0]?).map (·.processor.phase),
        (w'.members[0]?).map (fun m => (w'.enqueue 0 m errand labelled).1),
        (w'.close 0).step?.isNone, ((w'.close 0).calls[0]?).map (·.deliveries))) =
      some (some .dead, some (.error .shuttingDown), true, some []) := by
    decide +kernel
  obtain ⟨w', hw', heq⟩ := Option.map_eq_some_iff.mp hstep
  obtain ⟨hphase, hrest⟩ := Prod.mk.inj heq
  obtain ⟨hrefused, hrest⟩ := Prod.mk.inj hrest
  obtain ⟨hidle, hdeliveries⟩ := Prod.mk.inj hrest
  refine ⟨w', hw', fun hpostpones => ?_, hrefused, hidle, hdeliveries⟩
  obtain ⟨-, m', -, hm', hrunning, -⟩ := hpostpones.running
  rw [hm', Option.map_some, hrunning] at hphase
  cases hphase

end World

end Coordination
