import Coordination.Proofs.Background.Interleaving
import Coordination.Proofs.Background.Waiting

/-!
# Quiet worlds

A world is quiet when nobody in it has anything to do, now or later: the processors are idle, no
reply is on its way, and the threads for callbacks have nothing to run. Telling somebody something
keeps a world quiet. An event that is brought on its way in a quiet world is delivered in at most
one piece of work, and then the world is quiet again.

## Main definitions

* `World.IsQuiet`: nobody has anything to do
* `World.deliveriesOf`: the events that have been delivered for a call
* `Mode.isPassive`: the modes whose callbacks do nothing to their clients

## Main results

* `World.IsQuiet.step?_eq_none`, `World.IsQuiet.nextDue?_eq_none`: a quiet world stays as it is
* `World.IsQuiet.exists_leads_deliver`: an event is delivered
-/

namespace Coordination

/-! ## Idle processors -/

/-- Whether a processor has nothing to do, now or later. -/
def Processor.IsIdle (p : Processor) : Prop :=
  p.phase ≠ .draining ∧ (p.phase = .running → p.queue = [] ∧ p.due = [] ∧ p.parked = ∅)

namespace Processor

variable {p : Processor}

theorem IsIdle.step?_eq_none (h : p.IsIdle) (delay? : Job → StoreReply → Option Duration)
    (now : Nat) : p.step? delay? now = none := by
  unfold step?
  cases hphase : p.phase with
  | running =>
    obtain ⟨hqueue, hdue, -⟩ := h.2 hphase
    simp only [dueNow?, hdue, hqueue]
  | draining => exact absurd hphase h.1
  | stopped | dead => rfl

theorem IsIdle.nextDue?_eq_none (h : p.IsIdle) : p.nextDue? = none := by
  unfold nextDue?
  split
  · rename_i hphase hdue
    rw [(h.2 hphase).2.1] at hdue
    cases hdue
  · rfl

end Processor

/-- Whether a callback does nothing to its client. -/
def Reaction.isPassive : Reaction → Bool
  | close | execute _ => false
  | accept | fail _ | panic _ => true

/-- Whether the callback of a call, if there is one, does nothing to its client. -/
def Mode.isPassive (mode : Mode) : Bool := mode.callback.all Reaction.isPassive

/-- In a range of which one index is good, that one is found. -/
theorem findSome?_range {α : Type} {f : Nat → Option α} {n i : Nat} {a : α} (hi : i < n)
    (ha : f i = some a) (hothers : ∀ j, j ≠ i → f j = none) :
    (List.range n).findSome? f = some a := by
  cases h : (List.range n).findSome? f with
  | none =>
    rw [List.findSome?_eq_none_iff.mp h i (List.mem_range.mpr hi)] at ha
    cases ha
  | some b =>
    obtain ⟨j, -, hj⟩ := List.exists_of_findSome?_eq_some h
    by_cases hij : j = i
    · rw [← ha, ← hj, hij]
    · rw [hothers j hij] at hj
      cases hj

namespace World

/-! ## Quiet worlds -/

/-- Whether nobody has anything to do, now or later. -/
structure IsQuiet (w : World) : Prop where
  /-- The processors are idle. -/
  processors : ∀ (k : Nat) (m : Member), w.members[k]? = some m → m.processor.IsIdle
  /-- No reply is on its way. -/
  incoming : w.incoming = []
  /-- The threads for callbacks have nothing to run. -/
  workers : ∀ (i : Nat) (x : Worker), w.workers[i]? = some x → x.queue = [] ∧ x.waits = false
  /-- No two of them have the same name. -/
  threads : (w.workers.map (·.id)).Nodup

/-- The events that have been delivered for a call. -/
def deliveriesOf (w : World) (ticket : Nat) : List Event :=
  ((w.calls[ticket]?).map (·.deliveries)).getD []

variable {w w' : World} {k n : Nat} {m : Member} {t : Thread} {d : Delivery} {j : Job} {e : Event}

theorem stepProcessor?_of_isIdle (h : ∀ m, w.members[k]? = some m → m.processor.IsIdle) :
    w.stepProcessor? k = none := by
  unfold stepProcessor?
  split
  · rfl
  · rename_i m hm
    rw [(h m hm).step?_eq_none]

theorem stepWorker?_of_queue_eq_nil {i : Nat}
    (h : ∀ x, w.workers[i]? = some x → x.queue = []) : w.stepWorker? i = none := by
  unfold stepWorker?
  split
  · rfl
  · rename_i x hx
    rw [h x hx]

theorem step?_of_idle (hprocessors : ∀ k, w.stepProcessor? k = none) (hincoming : w.incoming = []) :
    w.step? = (List.range w.workers.length).findSome? w.stepWorker? := by
  rw [step?, List.findSome?_eq_none_iff.mpr fun k _ => hprocessors k, stepReply?, hincoming]

theorem IsQuiet.step?_eq_none (h : w.IsQuiet) : w.step? = none := by
  rw [step?_of_idle (fun k => stepProcessor?_of_isIdle (h.processors k)) h.incoming,
    List.findSome?_eq_none_iff]
  exact fun i _ => stepWorker?_of_queue_eq_nil fun x hx => (h.workers i x hx).1

theorem IsQuiet.nextDue?_eq_none (h : w.IsQuiet) : w.nextDue? = none := by
  have hnone : w.members.filterMap (fun m => m.processor.nextDue?) = [] := by
    refine List.filterMap_eq_nil_iff.mpr fun m hm => ?_
    obtain ⟨k, hk⟩ := List.mem_iff_getElem?.mp hm
    exact (h.processors k m hk).nextDue?_eq_none
  rw [nextDue?, hnone]
  rfl

/-! ## Telling -/

/-- What happens elsewhere keeps the processors idle. -/
theorem Elsewhere.isIdle (h : w.Elsewhere w')
    (hw : ∀ (k : Nat) (m : Member), w.members[k]? = some m → m.processor.IsIdle)
    (hm : w'.members[k]? = some m) : m.processor.IsIdle := by
  have hk := congrArg (·[k]?) h.members
  simp only [List.getElem?_map, hm, Option.map_some] at hk
  obtain ⟨m₀, hm₀, heq⟩ := Option.map_eq_some_iff.mp hk.symm
  have hprocessor : m₀.processor = m.processor := congrArg Prod.fst heq
  exact hprocessor ▸ hw k m₀ hm₀

/-- What happens elsewhere keeps a world quiet. -/
theorem IsQuiet.elsewhere (h : w.IsQuiet) (h' : w.Elsewhere w') : w'.IsQuiet where
  processors _ _ := h'.isIdle h.processors
  incoming := h'.incoming.trans h.incoming
  workers := h'.workers ▸ h.workers
  threads := h'.workers ▸ h.threads

theorem Elsewhere.refl (w : World) : w.Elsewhere w := ⟨Nat.le_refl _, rfl, rfl, rfl, rfl⟩

theorem Elsewhere.trans {w'' : World} (h : w.Elsewhere w') (h' : w'.Elsewhere w'') :
    w.Elsewhere w'' :=
  ⟨h.clock.trans h'.clock, h'.members.trans h.members, h'.incoming.trans h.incoming,
    h'.workers.trans h.workers, h'.calls.trans h.calls⟩

/-- Deliveries stay as they are elsewhere. -/
theorem Elsewhere.deliveriesOf (h : w.Elsewhere w') (n : Nat) :
    w'.deliveriesOf n = w.deliveriesOf n := by
  have hn := congrArg (·[n]?) h.calls
  simp only [List.getElem?_map] at hn
  rw [World.deliveriesOf, hn, World.deliveriesOf]

theorem map_modify_of_eq {α β : Type} {f : α → β} {g : α → α} (h : ∀ a, f (g a) = f a) (as : List α)
    (i : Nat) : (as.modify i g).map f = as.map f := by
  induction as generalizing i with
  | nil => cases i <;> rfl
  | cons a as ih =>
    cases i with
    | zero => simp [h]
    | succ i => simp [ih]

theorem elsewhere_updateMember {f : Member → Member}
    (hf : ∀ m, ((f m).processor, (f m).held) = (m.processor, m.held)) (w : World) (k : Nat) :
    w.Elsewhere (w.updateMember k f) :=
  ⟨Nat.le_refl _, map_modify_of_eq hf w.members k, rfl, rfl, rfl⟩

theorem elsewhere_updateCall {f : CallLog → CallLog} (hf : ∀ c, (f c).deliveries = c.deliveries)
    (w : World) (n : Nat) : w.Elsewhere (w.updateCall n f) :=
  ⟨Nat.le_refl _, rfl, rfl, rfl, map_modify_of_eq hf w.calls n⟩

/-- What somebody is told changes nothing but what is noted. -/
theorem elsewhere_tellings (w : World) (k ticket : Nat) (t : Thread) (tellings : List Telling) :
    w.Elsewhere (tellings.foldl (tell k ticket t) w) ∧
      (tellings.foldl (tell k ticket t) w).store = w.store := by
  induction tellings generalizing w with
  | nil => exact ⟨.refl w, rfl⟩
  | cons x tellings ih =>
    have hx : w.Elsewhere (tell k ticket t w x) ∧ (tell k ticket t w x).store = w.store := by
      cases x with
      | callback e =>
        exact ⟨elsewhere_updateCall (f := fun c => { c with events := c.events ++ [(e, t)] })
          (fun _ => rfl) w ticket, rfl⟩
      | callError n =>
        exact ⟨elsewhere_updateCall (f := fun c => { c with errors := c.errors ++ [n] })
          (fun _ => rfl) w ticket, rfl⟩
      | listener i e =>
        exact ⟨elsewhere_updateMember (f := fun m =>
          { m with
            eventListeners :=
              m.eventListeners.modify i fun l => { l with seen := l.seen ++ [(e, t)] } })
          (fun _ => rfl) w k, rfl⟩
      | clientError i n =>
        exact ⟨elsewhere_updateMember (f := fun m =>
          { m with
            errorListeners := m.errorListeners.modify i fun l => { l with seen := l.seen ++ [n] } })
          (fun _ => rfl) w k, rfl⟩
    obtain ⟨hrest, hstore⟩ := ih (tell k ticket t w x)
    exact ⟨hx.1.trans hrest, hstore.trans hx.2⟩

/-! ## Delivering -/

/-- Whether a world comes from another one by the delivery of an event for a call. -/
structure Delivers (w w' : World) (n : Nat) (e : Event) : Prop where
  /-- It is quiet. -/
  quiet : w'.IsQuiet
  /-- It has the same store. -/
  store : w'.store = w.store
  /-- The event has been delivered. -/
  deliveries : w'.deliveriesOf n = w.deliveriesOf n ++ [e]

/-- A delivery is noted with what is told. -/
theorem exists_elsewhere_note (hm : w.members[k]? = some m) (t : Thread) (d : Delivery) :
    ∃ w', w.Elsewhere w' ∧ w'.store = w.store ∧
      w.note k t d =
        w'.updateCall d.ticket fun c => { c with deliveries := c.deliveries ++ [d.event] } := by
  unfold note
  rw [hm]
  dsimp only
  obtain ⟨htold, hstore⟩ := elsewhere_tellings w k d.ticket t
    (d.tellings (m.eventListeners.map (·.fault)) m.errorListeners.length)
  exact ⟨_, htold, hstore, rfl⟩

theorem deliveriesOf_updateCall (hn : n < w.calls.length) (e : Event) :
    (w.updateCall n fun c => { c with deliveries := c.deliveries ++ [e] }).deliveriesOf n =
      w.deliveriesOf n ++ [e] := by
  simp [deliveriesOf, updateCall, hn]

/-- The deliveries when one has been noted. -/
theorem deliveriesOf_note (hm : w.members[k]? = some m) (hd : d.ticket < w.calls.length)
    (t : Thread) :
    (w.note k t d).deliveriesOf d.ticket = w.deliveriesOf d.ticket ++ [d.event] := by
  obtain ⟨w', helsewhere, -, hnote⟩ := exists_elsewhere_note hm t d
  have hcalls : w'.calls.length = w.calls.length := by
    simpa using congrArg List.length helsewhere.calls
  rw [hnote, deliveriesOf_updateCall (hcalls ▸ hd), helsewhere.deliveriesOf]

theorem react_of_isPassive {r : Reaction} (hr : r.isPassive) : w.react k m r = w := by
  cases r <;> first | rfl | cases hr

/-- A callback that does nothing to its client takes note of the event. -/
theorem run_of_isPassive (hm : w.members[k]? = some m)
    (hpassive : d.callback.all Reaction.isPassive) : w.run k t d = w.note k t d := by
  unfold run
  rw [hm]
  cases hcallback : d.callback with
  | none => rfl
  | some r =>
    rw [hcallback] at hpassive
    dsimp only
    rw [react_of_isPassive hpassive]

/-- The thread that has the event runs the callback. -/
theorem IsQuiet.delivers_run (hw : w.IsQuiet) (hm : w.members[k]? = some m)
    (hd : d.ticket < w.calls.length) (hpassive : d.callback.all Reaction.isPassive) (t : Thread) :
    w.Delivers (w.run k t d) d.ticket d.event := by
  rw [run_of_isPassive hm hpassive]
  refine ⟨?_, ?_, deliveriesOf_note hm hd t⟩
  all_goals
    obtain ⟨w', helsewhere, hstore, hnote⟩ := exists_elsewhere_note hm t d
    rw [hnote]
  · have hquiet := hw.elsewhere helsewhere
    exact ⟨hquiet.processors, hquiet.incoming, hquiet.workers, hquiet.threads⟩
  · exact hstore

/-- A delivery that is handed over is the only work that there is. -/
theorem IsQuiet.exists_worker_of_handOver (hw : w.IsQuiet) (id : WorkerId) (k : Nat)
    (d : Delivery) :
    ∃ (i : Nat) (x : Worker), (w.handOver id k d).workers[i]? = some x ∧ x.queue = [(k, d)] ∧
      x.waits = false ∧ ∀ (i' : Nat) (y : Worker), (w.handOver id k d).workers[i']? = some y →
        i' ≠ i → y.queue = [] ∧ y.waits = false := by
  unfold handOver
  split
  · rename_i hany
    obtain ⟨i, x, hx, -, heq⟩ := exists_map_eq_modify hw.threads hany
      fun x => { x with queue := x.queue ++ [(k, d)] }
    obtain ⟨hqueue, hwaits⟩ := hw.workers i x hx
    refine ⟨i, { x with queue := x.queue ++ [(k, d)] }, ?_, ?_, hwaits, ?_⟩
    · simp only [heq, List.getElem?_modify, hx, if_true, Option.map_eq_map, Option.map_some]
    · simp [hqueue]
    · intro i' y hy hne
      simp only [heq, List.getElem?_modify, hne.symm, if_false, id_map'] at hy
      exact hw.workers i' y hy
  · refine ⟨w.workers.length, { id, queue := [(k, d)], waits := false }, ?_, rfl, rfl, ?_⟩
    · simp
    · intro i' y hy hne
      rw [List.getElem?_append] at hy
      split at hy
      · exact hw.workers i' y hy
      · simp only [List.getElem?_singleton] at hy
        split at hy
        · omega
        · cases hy

/-- When the only delivery that there is has been made, a world is quiet. -/
theorem isQuiet_updateWorker_done {i : Nat} {x : Worker}
    (hprocessors : ∀ (k : Nat) (m : Member), w.members[k]? = some m → m.processor.IsIdle)
    (hincoming : w.incoming = []) (hthreads : (w.workers.map (·.id)).Nodup)
    (hx : w.workers[i]? = some x) (hqueue : x.queue = [(k, d)])
    (hothers : ∀ (i' : Nat) (y : Worker), w.workers[i']? = some y → i' ≠ i →
      y.queue = [] ∧ y.waits = false) : (w.updateWorker i Worker.done).IsQuiet := by
  refine ⟨hprocessors, hincoming, ?_, ?_⟩
  · intro i' y hy
    simp only [updateWorker, List.getElem?_modify] at hy
    by_cases hi : i = i'
    · subst hi
      simp only [hx, if_true, Option.map_eq_map, Option.map_some, Option.some.injEq] at hy
      subst hy
      exact ⟨by rw [Worker.done, hqueue]; rfl, rfl⟩
    · simp only [hi, if_false, id_map'] at hy
      exact hothers i' y hy (Ne.symm hi)
  · rw [updateWorker, map_modify_of_eq (f := Worker.id) (g := Worker.done) fun _ => rfl]
    exact hthreads

/-- A delivery that is handed over is made next. -/
theorem IsQuiet.exists_step_handOver (hw : w.IsQuiet) (hm : w.members[k]? = some m)
    (hd : d.ticket < w.calls.length) (hpassive : d.callback.all Reaction.isPassive)
    (id : WorkerId) :
    ∃ w', (w.handOver id k d).step? = some w' ∧ w.Delivers w' d.ticket d.event := by
  obtain ⟨i, x, hx, hqueue, hwaits, hothers⟩ := hw.exists_worker_of_handOver id k d
  have hnodup := nodup_handOver hw.threads id k d
  obtain ⟨workers, hhanded⟩ : ∃ workers, w.handOver id k d = { w with workers } := by
    unfold handOver
    split <;> exact ⟨_, rfl⟩
  -- all that is different is the threads, and of these one has the delivery in its queue
  rw [hhanded] at hx hothers hnodup ⊢
  generalize hw₁ : ({ w with workers } : World) = w₁ at hx hothers hnodup ⊢
  have hm₁ : w₁.members[k]? = some m := hw₁ ▸ hm
  have hd₁ : d.ticket < w₁.calls.length := hw₁ ▸ hd
  have hprocessors : ∀ (k : Nat) (m : Member), w₁.members[k]? = some m → m.processor.IsIdle :=
    hw₁ ▸ hw.processors
  have hcallback : ¬(d.callback = some .close ∧ (!m.client.closed) = true) := by
    rintro ⟨hclose, -⟩
    rw [hclose] at hpassive
    cases hpassive
  have hstep : w₁.stepWorker? i =
      some ((w₁.note k (.worker x.id) d).updateWorker i Worker.done) := by
    simp only [stepWorker?, hx, hqueue, hm₁, hwaits, Bool.false_eq_true, if_false, hcallback,
      run_of_isPassive hm₁ hpassive]
  have hidle : ∀ i', i' ≠ i → w₁.stepWorker? i' = none := fun i' hne =>
    stepWorker?_of_queue_eq_nil fun y hy => (hothers i' y hy hne).1
  refine ⟨(w₁.note k (.worker x.id) d).updateWorker i Worker.done, ?_, ?_, ?_, ?_⟩
  · rw [step?_of_idle (fun k => stepProcessor?_of_isIdle (hprocessors k))
      (hw₁ ▸ hw.incoming)]
    exact findSome?_range (List.getElem?_eq_some_iff.mp hx).1 hstep hidle
  · obtain ⟨w', helsewhere, -, hnote⟩ := exists_elsewhere_note hm₁ (.worker x.id) d
    rw [hnote]
    exact isQuiet_updateWorker_done (fun _ _ => helsewhere.isIdle hprocessors)
      (helsewhere.incoming.trans (hw₁ ▸ hw.incoming)) (helsewhere.workers ▸ hnodup)
      (helsewhere.workers ▸ hx) hqueue (helsewhere.workers ▸ hothers)
  · obtain ⟨w', -, hstore, hnote⟩ := exists_elsewhere_note hm₁ (.worker x.id) d
    rw [hnote]
    exact hstore.trans (hw₁ ▸ rfl)
  · have hdeliveries := deliveriesOf_note hm₁ hd₁ (.worker x.id)
    exact hdeliveries.trans (hw₁ ▸ rfl)

/-- **An event that is brought on its way in a quiet world is delivered.** -/
theorem IsQuiet.exists_leads_deliver (hw : w.IsQuiet) (hm : w.members[k]? = some m)
    (hj : j.ticket < w.calls.length) (hpassive : j.mode.isPassive) (reached : World → Bool)
    (t : Thread) (e : Event) :
    ∃ i w', i ≤ 1 ∧ Leads reached i (w.deliver k t j e) w' ∧
      w.Delivers w' j.ticket { e with context := j.mode.context } := by
  have hhanded (id : WorkerId) : ∃ i w', i ≤ 1 ∧
      Leads reached i (w.handOver id k (j.delivery e)) w' ∧
        w.Delivers w' j.ticket { e with context := j.mode.context } := by
    obtain ⟨w', hstep, hdelivers⟩ :=
      hw.exists_step_handOver hm (d := j.delivery e) hj hpassive id
    exact ⟨1, w', Nat.le_refl 1, .work hstep .refl, hdelivers⟩
  unfold deliver
  dsimp only
  split
  · exact hhanded _
  · split
    · exact ⟨0, _, Nat.zero_le 1, .refl,
        hw.delivers_run hm (d := j.delivery e) hj hpassive t⟩
    · exact hhanded _

end World

end Coordination
