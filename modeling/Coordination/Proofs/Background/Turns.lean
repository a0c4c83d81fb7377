import Coordination.Proofs.Background.Items

/-!
# The turns of a processor

What a processor keeps in order, and what one of its steps does to the calls that it has: a step
takes at most one of them, to send it or to finish it, and leaves the others where they are.

The due times are read while the processor is running, and then their numbers are those of the
parked calls. Once it clears up nobody looks at them again: the parked calls are given up one by
one, and the due times of those that are gone stay behind.

## Main definitions

* `Turn`: what a step does to the calls of a processor
* `Processor.IsScheduled`: the due times are those of the parked calls
* `Processor.IsTimed`: every parked call has a due time
* `Processor.Sound`: what a processor keeps in order

## Main results

* `Processor.Sound.step`: a step keeps the order and is a turn
* `Processor.Sound.phase_eq_stopped`: a processor that lets no messages in goes on until it stops
* `Processor.Sound.items_of_stopped`: it has nothing left then
-/

namespace Coordination

/-- What a step that asks for an action does to the calls of a client's processor. -/
inductive Turn (k : Nat) : Action → Multiset Item → Multiset Item → Prop
  /-- Nothing. -/
  | idle {xs : Multiset Item} : Turn k .none xs xs
  /-- A call that came back has to wait. -/
  | parked {j : Job} {reply : StoreReply} {xs : Multiset Item} :
      Turn k .none (.answered k j reply ::ₘ xs) (.parked k j reply ::ₘ xs)
  /-- A new call is to be sent. -/
  | first {j : Job} {xs : Multiset Item} : Turn k (.perform j) (.queued k j ::ₘ xs) xs
  /-- A parked call is to be sent again. -/
  | again {j : Job} {reply : StoreReply} {xs : Multiset Item} :
      Turn k (.perform j.retried) (.parked k j reply ::ₘ xs) xs
  /-- A call that came back is to be finished. -/
  | settled {j : Job} {reply : StoreReply} {xs : Multiset Item} :
      Turn k (.finish j reply) (.answered k j reply ::ₘ xs) xs
  /-- A parked call is to be finished. -/
  | given {j : Job} {reply : StoreReply} {xs : Multiset Item} :
      Turn k (.finish j reply) (.parked k j reply ::ₘ xs) xs

namespace Processor

/-- Whether the numbers of the due times are exactly those of the parked calls. -/
def IsScheduled (p : Processor) : Prop := (p.due.map Prod.snd).Perm p.parked.keys

/-- Whether every parked call has a due time, and no two due times have the same number. There may
be others, of calls that have been given up. -/
def IsTimed (p : Processor) : Prop :=
  p.parked.keys.Subperm (p.due.map Prod.snd) ∧ (p.due.map Prod.snd).Nodup

/-- What a processor keeps in order. -/
structure Sound (p : Processor) : Prop where
  /-- The due times are those of the parked calls, as long as they are read. -/
  scheduled : p.phase = .running ∨ p.queue ≠ [] → p.IsScheduled
  /-- Every parked call has a due time, also when they are no longer read. -/
  timed : p.IsTimed
  /-- The next number is a new one. -/
  fresh : ∀ id ∈ p.parked, id < p.nextId
  /-- It lets messages in only while it is running. -/
  awake : p.gateOpen → p.phase = .running
  /-- When it lets no more in while it is running, the last message is on its way. -/
  closing : p.phase = .running → (p.gateOpen = false ↔ Message.shutdown ∈ p.queue)
  /-- When it has stopped it has nothing left. -/
  stopped : p.phase = .stopped → p.queue = [] ∧ p.parked = ∅
  /-- It has cleared up, or will. -/
  alive : p.phase ≠ .dead

theorem sound_initial : initial.Sound where
  scheduled _ := by simp [IsScheduled, initial]
  timed := ⟨by simp [initial], by simp [initial]⟩
  fresh := by simp [initial]
  awake _ := rfl
  closing _ := by simp [initial]
  stopped h := by cases h
  alive h := by cases h

@[simp] theorem items_initial (k : Nat) : initial.items k = 0 := by
  simp [items, initial, queueItems, parkedItems]

variable {k id due now : Nat} {p p' : Processor} {j : Job} {reply : StoreReply} {m : Message}
  {rest : List (Nat × Nat)} {queue : List Message} {a : Action}
  {delay? : Job → StoreReply → Option Duration}

/-! ## From outside -/

/-- A message that is let in. -/
theorem Sound.push (hp : p.Sound) (hgate : p.gateOpen) (hm : m ≠ .shutdown) : (p.push m).Sound where
  scheduled _ := hp.scheduled (.inl (hp.awake hgate))
  timed := hp.timed
  fresh := hp.fresh
  awake := hp.awake
  closing h := by
    have hclosing : p.gateOpen = false ↔ Message.shutdown ∈ p.queue := hp.closing h
    simpa [Processor.push, hm.symm] using hclosing
  stopped h := absurd (hp.awake hgate) (by simp [show p.phase = .stopped from h])
  alive := hp.alive

theorem Sound.accepts_eq (hp : p.Sound) : p.accepts = p.gateOpen := by
  have halive : (p.phase != .dead) = true := by simpa using hp.alive
  rw [accepts, halive, Bool.and_true]

theorem Sound.enqueue?_eq (hp : p.Sound) (j : Job) :
    p.enqueue? j = if p.gateOpen then some (p.push (.submit j)) else none := by
  rw [enqueue?, hp.accepts_eq]

theorem Sound.complete?_eq (hp : p.Sound) (j : Job) (reply : StoreReply) :
    p.complete? j reply = if p.gateOpen then some (p.push (.completed j reply)) else none := by
  rw [complete?, hp.accepts_eq]

theorem Sound.shutdown_of_gateOpen (hp : p.Sound) (hgate : p.gateOpen) :
    p.shutdown = { p with gateOpen := false, queue := p.queue ++ [.shutdown] } := by
  rw [Processor.shutdown, if_pos hgate, if_neg hp.alive, Processor.push]

theorem shutdown_of_closed (hgate : p.gateOpen = false) : p.shutdown = p := by
  rw [Processor.shutdown, hgate, if_neg Bool.false_ne_true]

theorem Sound.shutdown (hp : p.Sound) : p.shutdown.Sound := by
  cases hgate : p.gateOpen with
  | false => rwa [shutdown_of_closed hgate]
  | true =>
    rw [hp.shutdown_of_gateOpen hgate]
    exact
      { scheduled := fun _ => hp.scheduled (.inl (hp.awake hgate))
        timed := hp.timed
        fresh := hp.fresh
        awake := fun h => by cases h
        closing := fun _ => by simp
        stopped := fun h => absurd (hp.awake hgate) (by simp [show p.phase = .stopped from h])
        alive := hp.alive }

theorem Sound.gateOpen_shutdown (hp : p.Sound) : p.shutdown.gateOpen = false := by
  cases hgate : p.gateOpen with
  | false => rw [shutdown_of_closed hgate, hgate]
  | true => rw [hp.shutdown_of_gateOpen hgate]

theorem Sound.items_shutdown (hp : p.Sound) (k : Nat) : p.shutdown.items k = p.items k := by
  cases hgate : p.gateOpen with
  | false => rw [shutdown_of_closed hgate]
  | true =>
    rw [hp.shutdown_of_gateOpen hgate]
    simp only [items, queueItems_append, Message.items, zero_add]

/-! ## The due times -/

theorem insertDue_perm (entry : Nat × Nat) (ds : List (Nat × Nat)) :
    (insertDue entry ds).Perm (entry :: ds) := by
  induction ds with
  | nil => exact .refl _
  | cons d ds ih =>
    unfold insertDue
    split
    · exact .refl _
    · exact (ih.cons d).trans (.swap entry d ds)

theorem IsScheduled.isTimed (hp : p.IsScheduled) : p.IsTimed :=
  ⟨hp.symm.subperm, hp.nodup_iff.mpr Std.ExtTreeMap.nodup_keys⟩

/-- The first due time is that of a parked call. -/
theorem IsScheduled.exists_parked (hp : p.IsScheduled) (hdue : p.due = (due, id) :: rest) :
    ∃ j reply, p.parked[id]? = some (j, reply) := by
  have hmem : id ∈ p.parked := by
    rw [← Std.ExtTreeMap.mem_keys, ← hp.mem_iff, hdue]
    exact List.mem_cons_self
  exact ⟨_, _, Std.ExtTreeMap.getElem?_eq_some_getElem hmem⟩

theorem keys_perm (hid : p.parked[id]? = some (j, reply)) :
    p.parked.keys.Perm (id :: (p.parked.erase id).keys) := by
  simpa [← Std.ExtTreeMap.map_fst_toList_eq_keys] using (toList_erase_perm hid).map Prod.fst

/-- The first due time goes with its call. -/
theorem IsScheduled.pop (hp : p.IsScheduled) (hdue : p.due = (due, id) :: rest)
    (hid : p.parked[id]? = some (j, reply)) :
    ({ p with due := rest, parked := p.parked.erase id } : Processor).IsScheduled := by
  refine List.Perm.cons_inv (a := id) ?_
  have hdues : (id :: rest.map Prod.snd).Perm p.parked.keys := by
    simpa only [IsScheduled, hdue, List.map_cons] using hp
  exact hdues.trans (keys_perm hid)

/-- The due time of a call that is given up stays. -/
theorem IsTimed.erase (hp : p.IsTimed) (hid : p.parked[id]? = some (j, reply)) :
    ({ p with parked := p.parked.erase id } : Processor).IsTimed := by
  obtain ⟨hparked, hnodup⟩ := hp
  -- there are fewer keys than before, and the due times are the same
  have hkeys := (List.sublist_cons_self id (p.parked.erase id).keys).subperm
  exact ⟨hkeys.trans ((keys_perm hid).symm.subperm.trans hparked), hnodup⟩

/-- A due time comes with its call. -/
theorem IsScheduled.park (hp : p.IsScheduled) (hid : p.parked[p.nextId]? = none) (due : Nat)
    (j : Job) (reply : StoreReply) : (p.park due j reply).IsScheduled := by
  have hkeys : (p.parked.insert p.nextId (j, reply)).keys.Perm (p.nextId :: p.parked.keys) := by
    simpa [← Std.ExtTreeMap.map_fst_toList_eq_keys] using (toList_insert_perm hid).map Prod.fst
  have hdues := (insertDue_perm (due, p.nextId) p.due).map Prod.snd
  exact hdues.trans ((hp.cons p.nextId).trans hkeys.symm)

/-! ## Steps -/

theorem Sound.next_free (hp : p.Sound) : p.parked[p.nextId]? = none := by
  refine Std.ExtTreeMap.getElem?_eq_none fun h => ?_
  exact Nat.lt_irrefl _ (hp.fresh _ h)

theorem Sound.fresh_erase (hp : p.Sound) (id : Nat) : ∀ i ∈ p.parked.erase id, i < p.nextId :=
  fun i hi => hp.fresh i (Std.ExtTreeMap.mem_of_mem_erase hi)

/-- A call is sent again. -/
theorem Sound.resume (hp : p.Sound) (hphase : p.phase = .running)
    (hdue : p.due = (due, id) :: rest) (hid : p.parked[id]? = some (j, reply)) :
    ({ p with due := rest, parked := p.parked.erase id } : Processor).Sound where
  scheduled _ := (hp.scheduled (.inl hphase)).pop hdue hid
  timed := ((hp.scheduled (.inl hphase)).pop hdue hid).isTimed
  fresh := hp.fresh_erase id
  awake := hp.awake
  closing := hp.closing
  stopped h := by simp [hphase] at h
  alive := hp.alive

/-- A call has to wait. -/
theorem Sound.park (hp : p.Sound) (hphase : p.phase = .running) (due : Nat) (j : Job)
    (reply : StoreReply) : (p.park due j reply).Sound where
  scheduled _ := (hp.scheduled (.inl hphase)).park hp.next_free due j reply
  timed := ((hp.scheduled (.inl hphase)).park hp.next_free due j reply).isTimed
  fresh i hi := by
    rcases Std.ExtTreeMap.mem_insert.mp hi with h | h
    · exact (Nat.compare_eq_eq.mp h) ▸ Nat.lt_succ_self _
    · exact Nat.lt_succ_of_lt (hp.fresh i h)
  awake := hp.awake
  closing := hp.closing
  stopped h := by simp [Processor.park, hphase] at h
  alive := hp.alive

/-- A message other than the last is taken from the queue. -/
theorem Sound.pop (hp : p.Sound) (hqueue : p.queue = m :: queue) (hm : m ≠ .shutdown) :
    ({ p with queue } : Processor).Sound where
  scheduled _ := hp.scheduled (.inr (by simp [hqueue]))
  timed := hp.timed
  fresh := hp.fresh
  awake := hp.awake
  closing h := by simpa [hqueue, hm.symm] using hp.closing h
  stopped h := by simpa [hqueue] using (hp.stopped h).1
  alive := hp.alive

/-- The last message is taken from the queue. -/
theorem Sound.drain (hp : p.Sound) (hphase : p.phase = .running)
    (hqueue : p.queue = .shutdown :: queue) :
    ({ p with queue, phase := .draining } : Processor).Sound where
  scheduled _ := hp.scheduled (.inl hphase)
  timed := hp.timed
  fresh := hp.fresh
  awake h := by
    have hgate : p.gateOpen = false := (hp.closing hphase).mpr (by simp [hqueue])
    simp [hgate] at h
  closing h := by cases h
  stopped h := by cases h
  alive h := by cases h

/-- A parked call is taken away while the processor clears up. -/
theorem Sound.clear (hp : p.Sound) (hphase : p.phase = .draining) (hqueue : p.queue = [])
    (hid : p.parked[id]? = some (j, reply)) :
    ({ p with parked := p.parked.erase id } : Processor).Sound where
  scheduled h := by simp [hphase, hqueue] at h
  timed := hp.timed.erase hid
  fresh := hp.fresh_erase id
  awake := hp.awake
  closing := hp.closing
  stopped h := by simp [hphase] at h
  alive := hp.alive

theorem items_of_queue (hqueue : p.queue = m :: queue) (k : Nat) :
    p.items k = m.items k + ({ p with queue } : Processor).items k := by
  simp only [items, hqueue, queueItems, add_assoc]

theorem items_erase (hid : p.parked[id]? = some (j, reply)) (k : Nat) :
    p.items k =
      .parked k j reply ::ₘ ({ p with parked := p.parked.erase id } : Processor).items k := by
  simp only [items, parkedItems_erase hid, Multiset.add_cons]

theorem exists_due_of_dueNow? (h : p.dueNow? now = some (id, rest)) :
    ∃ due, p.due = (due, id) :: rest := by
  unfold dueNow? at h
  split at h
  · split at h
    · cases h
      exact ⟨_, by assumption⟩
    · cases h
  · cases h

/-- A message is taken while the processor is running. -/
theorem Sound.step_take (hp : p.Sound) (hphase : p.phase = .running) (hqueue : p.queue = m :: queue)
    (hdelay : ∀ j reply d, delay? j reply = some d → now + d.nanos < instantLimit)
    (h : ({ p with queue } : Processor).take delay? now m = (a, p')) :
    p'.Sound ∧ p'.gateOpen = p.gateOpen ∧ Turn k a (p.items k) (p'.items k) := by
  rw [items_of_queue hqueue]
  cases m with
  | submit j =>
    cases h
    exact ⟨hp.pop hqueue (by simp), rfl, .first⟩
  | completed j reply =>
    have hpop := hp.pop hqueue (by simp)
    -- a final reply ends the call, any other parks it
    simp only [take] at h
    split at h
    · cases h
      exact ⟨hpop, rfl, .settled⟩
    · rename_i d hd
      rw [if_pos (hdelay j reply d hd)] at h
      cases h
      refine ⟨hpop.park hphase _ j reply, rfl, ?_⟩
      rw [items_park hpop.next_free]
      exact .parked
  | shutdown =>
    cases h
    refine ⟨hp.drain hphase hqueue, rfl, ?_⟩
    simp only [Message.items, zero_add]
    exact .idle

/-- A message is taken while the processor clears up. -/
theorem Sound.step_drain (hp : p.Sound) (hphase : p.phase = .draining)
    (hqueue : p.queue = m :: queue) (h : ({ p with queue } : Processor).drain m = (a, p')) :
    p'.Sound ∧ p'.gateOpen = p.gateOpen ∧ Turn k a (p.items k) (p'.items k) := by
  rw [items_of_queue hqueue]
  cases m with
  | submit j =>
    cases h
    exact ⟨hp.pop hqueue (by simp), rfl, .first⟩
  | completed j reply =>
    cases h
    exact ⟨hp.pop hqueue (by simp), rfl, .settled⟩
  | shutdown =>
    cases h
    refine ⟨?_, rfl, ?_⟩
    · exact
        { scheduled := fun _ => hp.scheduled (.inr (by simp [hqueue]))
          timed := hp.timed
          fresh := hp.fresh
          awake := hp.awake
          closing := fun h => by simp [hphase] at h
          stopped := fun h => by simp [hphase] at h
          alive := hp.alive }
    · simp only [Message.items, zero_add]
      exact .idle

/-- **A step of a processor** keeps its order, and is a turn, as long as delays lead to instants. -/
theorem Sound.step (hp : p.Sound)
    (hdelay : ∀ j reply d, delay? j reply = some d → now + d.nanos < instantLimit)
    (h : p.step? delay? now = some (a, p')) :
    p'.Sound ∧ p'.gateOpen = p.gateOpen ∧ Turn k a (p.items k) (p'.items k) := by
  unfold step? at h
  split at h
  · rename_i hphase
    split at h
    · -- a parked call is due
      rename_i id rest hnow
      obtain ⟨due, hdue⟩ := exists_due_of_dueNow? hnow
      obtain ⟨j, reply, hid⟩ := (hp.scheduled (.inl hphase)).exists_parked hdue
      simp only [Processor.resume, hid, Option.some.injEq, Prod.mk.injEq] at h
      obtain ⟨rfl, rfl⟩ := h
      refine ⟨hp.resume hphase hdue hid, rfl, ?_⟩
      rw [items_erase hid]
      exact .again
    · split at h
      · cases h
      · exact hp.step_take hphase (by assumption) hdelay (Option.some.inj h)
  · rename_i hphase
    split at h
    · exact hp.step_drain hphase (by assumption) (Option.some.inj h)
    · rename_i hqueue
      split at h
      · -- the first of the parked calls is given up
        rename_i id j reply rest hparked
        cases h
        have hid : p.parked[id]? = some (j, reply) := by
          rw [← Std.ExtTreeMap.mem_toList_iff_getElem?_eq_some, hparked]
          exact List.mem_cons_self
        refine ⟨hp.clear hphase hqueue hid, rfl, ?_⟩
        rw [items_erase hid]
        exact .given
      · -- nothing is left, and the processor stops
        rename_i hparked
        cases h
        refine ⟨?_, rfl, .idle⟩
        exact
          { scheduled := fun h => by simp [hqueue] at h
            timed := hp.timed
            fresh := hp.fresh
            awake := fun hopen => absurd (hp.awake hopen) (by simp [hphase])
            closing := fun h => by cases h
            stopped := fun _ => ⟨hqueue, Std.ExtTreeMap.toList_eq_nil_iff.mp hparked⟩
            alive := fun h => by cases h }
  · cases h
  · cases h

/-- A processor that lets no messages in ends. -/
theorem Sound.phase_eq_stopped (hp : p.Sound) (hgate : p.gateOpen = false)
    (h : p.step? delay? now = none) : p.phase = .stopped := by
  unfold step? at h
  split at h
  · rename_i hphase
    split at h
    · cases h
    · split at h
      · -- the last message would still have to be there
        rename_i hqueue
        have hmem := (hp.closing hphase).mp hgate
        simp [hqueue] at hmem
      · cases h
  · split at h
    · cases h
    · split at h <;> cases h
  · assumption
  · exact absurd (by assumption) hp.alive

/-- A processor that has stopped has no calls. -/
theorem Sound.items_of_stopped (hp : p.Sound) (h : p.phase = .stopped) (k : Nat) :
    p.items k = 0 := by
  obtain ⟨hqueue, hparked⟩ := hp.stopped h
  simp [items, hqueue, hparked, queueItems, parkedItems]

end Processor

end Coordination
