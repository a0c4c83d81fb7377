import Mathlib.Logic.Relation
import Coordination.Proofs.Background.Constancy

/-!
# The death of a processor

A delay that leads beyond the last instant is the end of a processor. The interleavings of
`World.Step` leave such delays out; here they are let in, so that there is something to be said
about a world in which a processor is dead: it remains so, and a call that is nowhere in the world
does not come back, since nobody does anything for a call that nobody has. As long as the processors
survive nothing is new: the steps that they take are those of the interleavings.

## Main definitions

* `World.Stride`: a step of a world whose policies may ask for any delay
* `World.IsDead`, `World.HasLost`: a processor that is dead, and a call that is nowhere
* `World.Spares`: what is done for other calls

## Main results

* `Processor.Lacks.step`: a processor does nothing for a call that it does not have
* `World.Abandons.stride`: a dead processor remains dead, and a lost call lost
* `World.progress_of_process`: a step that a processor survives is one of the interleavings
-/

namespace Coordination

/-! ## Processors -/

/-- The job that a processor asks something to be done for. -/
def Action.job? : Action → Option Job
  | .none => Option.none
  | .perform j | .finish j _ => some j

namespace Processor

variable {p p' : Processor} {k n now : Nat} {a : Action} {m : Message} {queue : List Message}
  {delay? : Job → StoreReply → Option Duration} {x : Item}
  {parked : Std.ExtTreeMap Nat (Job × StoreReply)}

theorem mem_parkedItems :
    x ∈ parkedItems k parked ↔ ∃ (id : Nat) (j : Job) (reply : StoreReply),
      parked[id]? = some (j, reply) ∧ x = .parked k j reply := by
  simp [parkedItems, Std.ExtTreeMap.mem_toList_iff_getElem?_eq_some, eq_comm]

/-- The last message brings no call. -/
theorem items_shutdown (p : Processor) (k : Nat) : p.shutdown.items k = p.items k := by
  unfold Processor.shutdown
  split
  · split
    · rfl
    · rw [items_push, Message.items, zero_add]
      rfl
  · rfl

/-- A parked call is one of those that were parked, or the one that has been added. -/
theorem exists_ticket_of_mem_park {due : Nat} {j : Job} {reply : StoreReply}
    (hx : x ∈ (p.park due j reply).items k) : x.ticket = j.ticket ∨ x ∈ p.items k := by
  rcases Multiset.mem_add.mp hx with hx | hx
  · exact .inr (Multiset.mem_add.mpr (.inl hx))
  · obtain ⟨id, j', reply', hid, rfl⟩ := mem_parkedItems.mp hx
    simp only [park, Std.ExtTreeMap.getElem?_insert] at hid
    split at hid
    · cases hid
      exact .inl rfl
    · exact .inr (Multiset.mem_add.mpr (.inr (mem_parkedItems.mpr ⟨id, j', reply', hid, rfl⟩)))

/-- A parked call that is taken away leaves the others. -/
theorem mem_of_mem_erase {id : Nat}
    (hx : x ∈ ({ p with parked := p.parked.erase id } : Processor).items k) : x ∈ p.items k := by
  rcases Multiset.mem_add.mp hx with hx | hx
  · exact Multiset.mem_add.mpr (.inl hx)
  · obtain ⟨i, j, reply, hi, rfl⟩ := mem_parkedItems.mp hx
    rw [Std.ExtTreeMap.getElem?_erase] at hi
    split at hi
    · cases hi
    · exact Multiset.mem_add.mpr (.inr (mem_parkedItems.mpr ⟨i, j, reply, hi, rfl⟩))

/-- Whether a processor of a client does not have a call. -/
def Lacks (p : Processor) (k n : Nat) : Prop := ∀ x ∈ p.items k, x.ticket ≠ n

theorem lacks_of_queue (hqueue : p.queue = m :: queue) :
    p.Lacks k n ↔
      (∀ x ∈ m.items k, x.ticket ≠ n) ∧ ({ p with queue } : Processor).Lacks k n := by
  simp only [Lacks, items_of_queue hqueue, Multiset.mem_add, or_imp, forall_and]

theorem lacks_take (hm : ∀ x ∈ m.items k, x.ticket ≠ n) (hp : p.Lacks k n)
    (h : p.take delay? now m = (a, p')) : p'.Lacks k n ∧ ∀ j ∈ a.job?, j.ticket ≠ n := by
  cases m with
  | submit j =>
    cases h
    exact ⟨hp, by simpa [Action.job?, Message.items, Item.ticket] using hm⟩
  | completed j reply =>
    have hj : j.ticket ≠ n := by simpa [Message.items, Item.ticket] using hm
    simp only [take] at h
    split at h
    · cases h
      exact ⟨hp, by simpa [Action.job?] using hj⟩
    · split at h
      · cases h
        refine ⟨fun x hx => ?_, by simp [Action.job?]⟩
        rcases exists_ticket_of_mem_park hx with hticket | hx
        · exact hticket ▸ hj
        · exact hp x hx
      · cases h
        exact ⟨by simp [Lacks, die, items, queueItems, parkedItems], by simp [Action.job?]⟩
  | shutdown =>
    cases h
    exact ⟨hp, by simp [Action.job?]⟩

theorem lacks_drain (hm : ∀ x ∈ m.items k, x.ticket ≠ n) (hp : p.Lacks k n)
    (h : p.drain m = (a, p')) : p'.Lacks k n ∧ ∀ j ∈ a.job?, j.ticket ≠ n := by
  cases m with
  | submit j | completed j reply =>
    cases h
    exact ⟨hp, by simpa [Action.job?, Message.items, Item.ticket] using hm⟩
  | shutdown =>
    cases h
    exact ⟨hp, by simp [Action.job?]⟩

/-- **A processor does nothing for a call that it does not have.** -/
theorem Lacks.step (hp : p.Lacks k n) (h : p.step? delay? now = some (a, p')) :
    p'.Lacks k n ∧ ∀ j ∈ a.job?, j.ticket ≠ n := by
  -- the calls of a processor whose parked ones include a given one
  have hparked {id : Nat} {j : Job} {reply : StoreReply} (hid : p.parked[id]? = some (j, reply)) :
      j.ticket ≠ n :=
    hp (.parked k j reply)
      (Multiset.mem_add.mpr (.inr (mem_parkedItems.mpr ⟨id, j, reply, hid, rfl⟩)))
  unfold step? at h
  split at h
  · split at h
    · rename_i id rest _
      simp only [resume, Option.some.injEq] at h
      split at h
      · cases h
        exact ⟨hp, by simp [Action.job?]⟩
      · rename_i j reply hid
        cases h
        exact ⟨fun x hx => hp x (mem_of_mem_erase (p := p) hx),
          by simpa [Action.job?, Job.retried] using hparked hid⟩
    · split at h
      · cases h
      · rename_i hqueue
        obtain ⟨hm, hrest⟩ := (lacks_of_queue hqueue).mp hp
        exact lacks_take hm hrest (Option.some.inj h)
  · split at h
    · rename_i hqueue
      obtain ⟨hm, hrest⟩ := (lacks_of_queue hqueue).mp hp
      exact lacks_drain hm hrest (Option.some.inj h)
    · split at h
      · rename_i id j reply rest htoList
        cases h
        have hid : p.parked[id]? = some (j, reply) := by
          rw [← Std.ExtTreeMap.mem_toList_iff_getElem?_eq_some, htoList]
          exact List.mem_cons_self
        exact ⟨fun x hx => hp x (mem_of_mem_erase hx), by simpa [Action.job?] using hparked hid⟩
      · cases h
        exact ⟨hp, by simp [Action.job?]⟩
  · cases h
  · cases h

/-- A dead processor takes no step. -/
theorem phase_ne_dead_of_step? (h : p.step? delay? now = some (a, p')) : p.phase ≠ .dead := by
  intro hphase
  simp [step?, hphase] at h

/-- A message that a processor survives is one that it takes with delays that lead to instants. -/
theorem take_of_survives (h : p.take delay? now m = (a, p')) (halive : p'.phase ≠ .dead) :
    p.take (fun j reply => (delay? j reply).filter fun d => now + d.nanos < instantLimit) now m =
      (a, p') := by
  cases m with
  | submit | shutdown => exact h
  | completed j reply =>
    simp only [take] at h ⊢
    cases hd : delay? j reply with
    | none => simpa [hd] using h
    | some d =>
      by_cases hfits : now + d.nanos < instantLimit
      · simpa [hd, Option.filter, hfits] using h
      · simp only [hd, hfits, if_false, Prod.mk.injEq] at h
        exact absurd (h.2 ▸ rfl) halive

theorem step?_of_survives (h : p.step? delay? now = some (a, p')) (halive : p'.phase ≠ .dead) :
    p.step? (fun j reply => (delay? j reply).filter fun d => now + d.nanos < instantLimit) now =
      some (a, p') := by
  unfold step? at h ⊢
  -- only a message that is taken while the processor is running asks for a delay
  split at h
  · split at h
    · exact h
    · split at h
      · exact h
      · exact congrArg some (take_of_survives (Option.some.inj h) halive)
  · exact h
  · exact h
  · exact h

end Processor

/-! ## Worlds -/

namespace World

variable {w w' w'' : World} {k i n : Nat} {m : Member} {marks : List Mark} {a : Action} {j : Job}
  {reply : StoreReply} {d : Delivery}

/-- A step of a world whose policies may ask for any delay. -/
inductive Stride (w : World) : World → Prop
  /-- It is a step as they are when delays lead to instants. -/
  | step {marks : List Mark} {w' : World} (h : w.Step marks w') : Stride w w'
  /-- A processor takes its next step, whatever delays it is asked for. -/
  | process {k : Nat} {m : Member} {delay? : Job → StoreReply → Option Duration} {a : Action}
      {processor : Processor} (hm : w.members[k]? = some m)
      (hstep : m.processor.step? delay? w.clock = some (a, processor)) :
      Stride w ((w.updateMember k fun m => { m with processor }).act k a)

/-- Whether the processor of a client is dead. -/
def IsDead (w : World) (k : Nat) : Prop :=
  ∃ m, w.members[k]? = some m ∧ m.processor.phase = .dead

/-- Whether a call that a world has accepted is nowhere in it. -/
structure HasLost (w : World) (n : Nat) : Prop where
  /-- No client has it, -/
  members : ∀ (k : Nat) (m : Member), w.members[k]? = some m → ∀ x ∈ m.items k, x.ticket ≠ n
  /-- it is not on its way from the store, -/
  incoming : ∀ r ∈ w.incoming, r.job.ticket ≠ n
  /-- no thread is to deliver its event, -/
  workers : ∀ z ∈ w.workers, ∀ y ∈ z.queue, y.2.ticket ≠ n
  /-- and no event has been delivered for it. -/
  calls : ∃ log, w.calls[n]? = some log ∧ log.deliveries = []

/-- Whether a world comes from another one by what is done for other calls than `n`, and revives no
processor. -/
structure Spares (n : Nat) (w w' : World) : Prop where
  /-- What is dead remains so. -/
  dead : ∀ k, w.IsDead k → w'.IsDead k
  /-- What is lost remains so. -/
  lost : w.HasLost n → w'.HasLost n

/-- A call that is among no items has been lost. -/
theorem hasLost_of_forall_ne (hn : n < w.calls.length) (h : ∀ x ∈ w.items, x.ticket ≠ n) :
    w.HasLost n := by
  simp only [items, Multiset.mem_add, mem_gather] at h
  refine ⟨fun k m hm x hx => ?_, fun r hr => ?_, fun z hz y hy => ?_, ?_⟩
  · exact h x (.inl (.inl (.inl ⟨k, m, hm, hx⟩)))
  · exact h r.item (.inl (.inl (.inr (List.mem_map_of_mem hr))))
  · obtain ⟨i, hi⟩ := List.getElem?_of_mem hz
    exact h (.handed y.1 y.2) (.inl (.inr ⟨i, z, hi, List.mem_map.mpr ⟨y, hy, rfl⟩⟩))
  · refine ⟨w.calls[n], List.getElem?_eq_getElem hn, List.eq_nil_iff_forall_not_mem.mpr ?_⟩
    intro e he
    exact h (.delivered n e)
      (.inr ⟨n, w.calls[n], List.getElem?_eq_getElem hn, List.mem_map_of_mem he⟩) rfl

/-! ## What is done for other calls -/

theorem Spares.refl (n : Nat) (w : World) : w.Spares n w := ⟨fun _ => id, id⟩

theorem Spares.trans (h : Spares n w w') (h' : Spares n w' w'') : Spares n w w'' :=
  ⟨fun k => h'.dead k ∘ h.dead k, h'.lost ∘ h.lost⟩

theorem spares_updateMember {f : Member → Member}
    (hphase : ∀ m, w.members[k]? = some m → m.processor.phase = .dead →
      (f m).processor.phase = .dead)
    (hitems : ∀ m, w.members[k]? = some m → (∀ x ∈ m.items k, x.ticket ≠ n) →
      ∀ x ∈ (f m).items k, x.ticket ≠ n) : Spares n w (w.updateMember k f) where
  dead i h := by
    obtain ⟨m, hm, hdead⟩ := h
    by_cases hi : k = i
    · subst hi
      exact ⟨f m, getElem?_updateMember hm _, hphase m hm hdead⟩
    · exact ⟨m, by simp [updateMember, hi, hm], hdead⟩
  lost h := by
    refine ⟨fun i m hm => ?_, h.incoming, h.workers, h.calls⟩
    simp only [updateMember, List.getElem?_modify] at hm
    by_cases hi : k = i
    · subst hi
      obtain ⟨m₀, hm₀, rfl⟩ : ∃ m₀, w.members[k]? = some m₀ ∧ f m₀ = m := by simpa using hm
      exact hitems m₀ hm₀ (h.members k m₀ hm₀)
    · exact h.members i m (by simpa [hi] using hm)

theorem spares_updateCall {ticket : Nat} {f : CallLog → CallLog} (hn : ticket ≠ n) :
    Spares n w (w.updateCall ticket f) :=
  ⟨fun _ => id, fun h =>
    ⟨h.members, h.incoming, h.workers, by simpa [updateCall, hn] using h.calls⟩⟩

/-- A client is here as it is there, as far as calls go. -/
theorem Elsewhere.exists_member (h : w.Elsewhere w') (hm : w'.members[k]? = some m) :
    ∃ m₀, w.members[k]? = some m₀ ∧ m₀.processor = m.processor ∧ m₀.held = m.held := by
  have hk := congrArg (·[k]?) h.members
  simp only [List.getElem?_map, hm, Option.map_some] at hk
  obtain ⟨m₀, hm₀, heq⟩ := Option.map_eq_some_iff.mp hk.symm
  exact ⟨m₀, hm₀, congrArg Prod.fst heq, congrArg Prod.snd heq⟩

/-- What happens elsewhere is done for no call. -/
theorem Elsewhere.spares (h : w.Elsewhere w') : Spares n w w' where
  dead k := by
    rintro ⟨m, hm, hdead⟩
    have hk := congrArg (·[k]?) h.members
    simp only [List.getElem?_map, hm, Option.map_some] at hk
    obtain ⟨m', hm', heq⟩ := Option.map_eq_some_iff.mp hk
    have hprocessor : m'.processor = m.processor := congrArg Prod.fst heq
    exact ⟨m', hm', hprocessor ▸ hdead⟩
  lost hw := by
    refine ⟨fun i m hm => ?_, h.incoming ▸ hw.incoming, h.workers ▸ hw.workers, ?_⟩
    · obtain ⟨m₀, hm₀, hprocessor, hheld⟩ := h.exists_member hm
      rw [Member.items, ← hprocessor, ← hheld]
      exact hw.members i m₀ hm₀
    · obtain ⟨log, hlog, hdeliveries⟩ := hw.calls
      have hn := congrArg (·[n]?) h.calls
      simp only [List.getElem?_map, hlog, Option.map_some, hdeliveries] at hn
      exact Option.map_eq_some_iff.mp hn

theorem spares_note (w : World) (k : Nat) (t : Thread) (hd : d.ticket ≠ n) :
    Spares n w (w.note k t d) := by
  cases hm : w.members[k]? with
  | none =>
    simp only [note, hm]
    exact .refl n w
  | some m =>
    obtain ⟨w', helsewhere, -, hnote⟩ := exists_elsewhere_note hm t d
    exact hnote ▸ helsewhere.spares.trans (spares_updateCall hd)

theorem spares_beginClose (w : World) (k : Nat) : Spares n w (w.beginClose k) := by
  refine spares_updateMember (fun m _ hdead => ?_) fun m _ hm => ?_
  · rwa [phase_shutdown]
  · simpa only [Member.items, Processor.items_shutdown] using hm

theorem spares_react (w : World) (k : Nat) (m : Member) (r : Reaction) :
    Spares n w (w.react k m r) := by
  unfold react
  split
  · split
    · exact .refl n w
    · exact (spares_beginClose w k).trans (elsewhere_endClose _ k).spares
  · exact (elsewhere_foreground w k m _).spares
  · exact .refl n w

theorem spares_run (w : World) (k : Nat) (t : Thread) (hd : d.ticket ≠ n) :
    Spares n w (w.run k t d) := by
  unfold run
  split
  · exact (spares_react w k _ _).trans (spares_note _ k t hd)
  · exact spares_note w k t hd

theorem spares_handOver (w : World) (name : WorkerId) (k : Nat) (hd : d.ticket ≠ n) :
    Spares n w (w.handOver name k d) := by
  unfold handOver
  split
  · refine ⟨fun _ => id, fun h => ⟨h.members, h.incoming, fun z hz y hy => ?_, h.calls⟩⟩
    obtain ⟨z₀, hz₀, rfl⟩ := List.mem_map.mp hz
    split at hy
    · rcases List.mem_append.mp hy with hy | hy
      · exact h.workers z₀ hz₀ y hy
      · obtain rfl := List.mem_singleton.mp hy
        exact hd
    · exact h.workers z₀ hz₀ y hy
  · refine ⟨fun _ => id, fun h => ⟨h.members, h.incoming, fun z hz y hy => ?_, h.calls⟩⟩
    rcases List.mem_append.mp hz with hz | hz
    · exact h.workers z hz y hy
    · obtain rfl := List.mem_singleton.mp hz
      obtain rfl := List.mem_singleton.mp hy
      exact hd

theorem spares_deliver (w : World) (k : Nat) (t : Thread) (hj : j.ticket ≠ n) (e : Event) :
    Spares n w (w.deliver k t j e) := by
  have hd : (j.delivery e).ticket ≠ n := hj
  unfold deliver
  dsimp only
  split
  · exact spares_handOver w _ k hd
  · split
    · exact spares_run w k t hd
    · exact spares_handOver w _ k hd

theorem spares_finish (w : World) (k : Nat) (t : Thread) (hj : j.ticket ≠ n) (reply : StoreReply) :
    Spares n w (w.finish k t j reply) := by
  unfold finish
  split
  · exact .refl n w
  · split
    · exact spares_deliver w k t hj _
    · exact (elsewhere_tellings w k j.ticket t _).1.spares.trans (spares_deliver _ k t hj _)

theorem spares_complete (w : World) (k : Nat) (t : Thread) (hj : j.ticket ≠ n)
    (reply : StoreReply) : Spares n w (w.complete k t j reply) := by
  unfold complete
  split
  · exact .refl n w
  · rename_i m hm
    split
    · rename_i processor hcomplete
      obtain ⟨-, rfl⟩ : m.processor.accepts ∧
          m.processor.push (.completed j reply) = processor := by
        simpa [Processor.complete?] using hcomplete
      refine spares_updateMember (fun m' hm' hdead => ?_) fun m' hm' hitems => ?_
      · obtain rfl : m = m' := by simpa [hm] using hm'
        exact hdead
      · obtain rfl : m = m' := by simpa [hm] using hm'
        simpa [Member.items, Processor.items_push, Message.items, Item.ticket, hj, or_imp,
          forall_and] using hitems
    · exact spares_finish w k t hj reply

theorem spares_receive {r : IncomingReply} (w : World) (hr : r.job.ticket ≠ n) :
    Spares n w (w.receive r) := by
  unfold receive
  split
  · exact .refl n w
  · generalize tampered _ r.reply = y
    obtain ⟨reply, tampering⟩ := y
    have htampered : w.Elsewhere (w.updateMember r.client fun m => { m with tampering }) :=
      elsewhere_updateMember (f := fun m => { m with tampering }) (fun _ => rfl) w r.client
    dsimp only
    split
    · refine htampered.spares.trans (spares_updateMember (fun _ _ => id) fun m _ hm => ?_)
      simpa [Member.items, Item.ticket, hr, or_imp, forall_and] using hm
    · exact htampered.spares.trans (spares_complete _ r.client .io hr reply)

theorem spares_send (w : World) (k : Nat) (m : Member) (hj : j.ticket ≠ n) :
    Spares n w (w.send k m j) := by
  unfold send
  split
  all_goals
    refine ⟨fun _ => id, fun h => ⟨h.members, fun r hr => ?_, h.workers, h.calls⟩⟩
    rcases List.mem_append.mp hr with hr | hr
    · exact h.incoming r hr
    · obtain rfl := List.mem_singleton.mp hr
      exact hj

theorem spares_perform (w : World) (k : Nat) (hj : j.ticket ≠ n) : Spares n w (w.perform k j) := by
  have hbegun (now : Nat) : (j.begun now).ticket ≠ n := hj
  unfold perform
  split
  · exact .refl n w
  · rename_i m hm
    split
    · exact spares_deliver w k _ hj _
    · have hrooted : Spares n w (w.foreground k m ensureRootOnce).2 :=
        (elsewhere_foreground w k m ensureRootOnce).spares
      generalize w.foreground k m ensureRootOnce = y at hrooted
      obtain ⟨result, w'⟩ := y
      dsimp only
      split
      · rename_i hresult
        cases hresult
        exact hrooted.trans (spares_send _ k m (hbegun _))
      · rename_i hresult
        cases hresult
        split
        · exact hrooted.trans (spares_complete _ k _ (hbegun _) _)
        · exact hrooted.trans (spares_deliver _ k _ (hbegun _) _)
      · rename_i hresult
        cases hresult
        exact hrooted.trans (spares_deliver _ k _ (hbegun _) _)

theorem spares_act (w : World) (k : Nat) (ha : ∀ j ∈ a.job?, j.ticket ≠ n) :
    Spares n w (w.act k a) := by
  cases a with
  | none => exact .refl n w
  | perform j => exact spares_perform w k (ha j rfl)
  | finish j reply => exact spares_finish w k _ (ha j rfl) reply

/-! ## Strides -/

/-- Whether the processor of a client is dead, and a call is nowhere. -/
structure Abandons (w : World) (k n : Nat) : Prop where
  /-- The processor is dead. -/
  dead : w.IsDead k
  /-- The call has been lost. -/
  lost : w.HasLost n

theorem Spares.abandons (h : Spares n w w') (hw : w.Abandons k n) : w'.Abandons k n :=
  ⟨h.dead k hw.dead, h.lost hw.lost⟩

/-- A dead processor remains dead when another one does something. -/
theorem IsDead.act (h : w.IsDead k) (i : Nat) (a : Action) : (w.act i a).IsDead k := by
  -- what is done is done for one call, so another one is spared
  obtain ⟨n, hn⟩ : ∃ n, ∀ j ∈ a.job?, j.ticket ≠ n := by
    cases hjob : a.job? with
    | none => exact ⟨0, by simp⟩
    | some j => exact ⟨j.ticket + 1, by simp⟩
  exact (spares_act w i hn).dead k h

/-- A processor that does not have a lost call does something for another one. -/
theorem Abandons.act {processor : Processor} (hw : w.Abandons k n) (hm : w.members[i]? = some m)
    (hphase : m.processor.phase ≠ .dead) (hp : processor.Lacks i n)
    (ha : ∀ j ∈ a.job?, j.ticket ≠ n) :
    ((w.updateMember i fun m => { m with processor }).act i a).Abandons k n := by
  have htaken : Spares n w (w.updateMember i fun m => { m with processor }) := by
    refine spares_updateMember (fun m' hm' hdead => ?_) fun m' hm' hitems x hx => ?_
    · obtain rfl : m = m' := by simpa [hm] using hm'
      exact absurd hdead hphase
    · rcases Multiset.mem_add.mp hx with hx | hx
      · exact hp x hx
      · exact hitems x (Multiset.mem_add.mpr (.inr hx))
  exact (htaken.trans (spares_act _ i ha)).abandons hw

/-- The calls that a client does not have its processor does not have. -/
theorem HasLost.lacks (h : w.HasLost n) (hm : w.members[k]? = some m) : m.processor.Lacks k n :=
  fun x hx => h.members k m hm x (Multiset.mem_add.mpr (.inl hx))

theorem Abandons.process {delay? : Job → StoreReply → Option Duration} {processor : Processor}
    (hw : w.Abandons k n) (hm : w.members[i]? = some m)
    (h : m.processor.step? delay? w.clock = some (a, processor)) :
    ((w.updateMember i fun m => { m with processor }).act i a).Abandons k n := by
  obtain ⟨hp, ha⟩ := (hw.lost.lacks hm).step h
  exact hw.act hm (Processor.phase_ne_dead_of_step? h) hp ha

theorem Abandons.release (hw : w.Abandons k n) (h : (w.release i).1) :
    (w.release i).2.Abandons k n := by
  obtain ⟨m, j, reply, held, hm, hheld, hreleased⟩ := exists_held_of_release h
  rw [hreleased]
  have hj : j.ticket ≠ n :=
    hw.lost.members i m hm (.flying i j reply) (Multiset.mem_add.mpr (.inr (by simp [hheld])))
  have htaken : Spares n w (w.updateMember i fun m => { m with held }) := by
    refine spares_updateMember (fun _ _ => id) fun m' hm' hitems x hx => hitems x ?_
    obtain rfl : m = m' := by simpa [hm] using hm'
    rcases Multiset.mem_add.mp hx with hx | hx
    · exact Multiset.mem_add.mpr (.inl hx)
    · refine Multiset.mem_add.mpr (.inr ?_)
      rw [hheld, List.map_cons]
      exact List.mem_cons_of_mem _ hx
  exact (htaken.trans (spares_complete _ i .main hj reply)).abandons hw

theorem Abandons.deliver (hw : w.Abandons k n) (h : w.stepWorker? i = some w') :
    w'.Abandons k n := by
  have hupdated {w₀ : World} {f : Worker → Worker} (hw₀ : w₀.Abandons k n)
      (hf : ∀ x, (f x).queue ⊆ x.queue) : (w₀.updateWorker i f).Abandons k n := by
    refine ⟨hw₀.dead, ⟨hw₀.lost.members, hw₀.lost.incoming, fun z hz y hy => ?_, hw₀.lost.calls⟩⟩
    obtain ⟨l, hl⟩ := List.getElem?_of_mem hz
    simp only [updateWorker, List.getElem?_modify] at hl
    obtain ⟨z₀, hz₀, rfl⟩ := Option.map_eq_some_iff.mp hl
    refine hw₀.lost.workers z₀ (List.mem_of_getElem? hz₀) y ?_
    split at hy
    · exact hf z₀ hy
    · exact hy
  have hdone (x : Worker) : (Worker.done x).queue ⊆ x.queue := fun _ => List.mem_of_mem_tail
  have hother {x : Worker} {c : Nat} {d : Delivery} {queue : List (Nat × Delivery)}
      (hx : w.workers[i]? = some x) (hqueue : x.queue = (c, d) :: queue) : d.ticket ≠ n :=
    hw.lost.workers x (List.mem_of_getElem? hx) (c, d) (hqueue ▸ List.mem_cons_self)
  cases serves_of_stepWorker? h with
  | gone => exact hupdated hw hdone
  | @resumes x c _ _ _ hx hqueue =>
    have hclosed := (elsewhere_endClose w c).spares.trans
      (spares_note _ c (.worker x.id) (hother hx hqueue))
    exact hupdated (hclosed.abandons hw) hdone
  | waits => exact hupdated ((spares_beginClose w _).abandons hw) fun _ => List.Subset.refl _
  | runs hx hqueue => exact hupdated ((spares_run w _ _ (hother hx hqueue)).abandons hw) hdone

theorem Abandons.progress (hw : w.Abandons k n) (h : w.Progress marks w') : w'.Abandons k n := by
  cases h with
  | process hm _ hstep => exact hw.process hm hstep
  | @clear i id m j reply processor hm hphase _ hid hprocessor =>
    have hp := hw.lost.lacks hm
    subst hprocessor
    refine hw.act hm (by simp [hphase]) (fun x hx => hp x (Processor.mem_of_mem_erase hx)) ?_
    have hj : j.ticket ≠ n :=
      hp (.parked i j reply)
        (Multiset.mem_add.mpr (.inr (Processor.mem_parkedItems.mpr ⟨id, j, reply, hid, rfl⟩)))
    simpa [Action.job?] using hj
  | @receive r front back hincoming =>
    have hmem {r' : IncomingReply} (h : r' ∈ front ++ back ∨ r' = r) : r' ∈ w.incoming := by
      rw [hincoming]
      simp only [List.mem_append, List.mem_cons] at h ⊢
      tauto
    have htaken : ({ w with incoming := front ++ back } : World).Abandons k n :=
      ⟨hw.dead, hw.lost.members, fun r' hr' => hw.lost.incoming r' (hmem (.inl hr')),
        hw.lost.workers, hw.lost.calls⟩
    exact (spares_receive _ (hw.lost.incoming r (hmem (.inr rfl)))).abandons htaken
  | release h => exact hw.release h
  | deliver h => exact hw.deliver h

theorem Abandons.accept {payload : Payload} {mode : Mode} {ticket : Nat} (hw : w.Abandons k n)
    (hm : w.members[i]? = some m) (h : w.enqueue i m payload mode = (.ok ticket, w')) :
    w'.Abandons k n := by
  obtain ⟨log, hlog, hdeliveries⟩ := hw.lost.calls
  have hn : n < w.calls.length := (List.getElem?_eq_some_iff.mp hlog).1
  have hcounted (c : CallLog) : ({ w with calls := w.calls ++ [c] } : World).Abandons k n :=
    ⟨hw.dead, hw.lost.members, hw.lost.incoming, hw.lost.workers,
      ⟨log, by rw [List.getElem?_append_left hn, hlog], hdeliveries⟩⟩
  unfold enqueue at h
  dsimp only at h
  split at h
  · cases h
  · rename_i processor hprocessor
    obtain ⟨-, rfl⟩ : m.processor.accepts ∧ _ = processor := by
      simpa only [Processor.enqueue?, Option.ite_none_right_eq_some, Option.some.injEq] using
        hprocessor
    cases h
    -- the number of the new call is none that has been given
    refine Spares.abandons (spares_updateMember (fun m' hm' hdead => ?_) fun m' hm' hitems => ?_)
      (hcounted _)
    · obtain rfl : m = m' := by simpa [hm] using hm'
      exact hdead
    · obtain rfl : m = m' := by simpa [hm] using hm'
      simpa [Member.items, Processor.items_push, Message.items, Item.ticket, Job.fresh, hn.ne',
        or_imp, forall_and] using hitems

theorem Abandons.start {s : Session} {t : Tampering} {c : Config} (hw : w.Abandons k n)
    (h : w.start s t c = .ok (i, w')) : w'.Abandons k n := by
  unfold World.start at h
  cases hstart : Client.start c with
  | error f => rw [hstart] at h; cases h
  | ok client =>
    rw [hstart] at h
    cases h
    obtain ⟨m, hm, hdead⟩ := hw.dead
    refine ⟨⟨m, ?_, hdead⟩, ⟨fun l m' hm' x hx => ?_, hw.lost.incoming, hw.lost.workers,
      hw.lost.calls⟩⟩
    · rw [List.getElem?_append_left (List.getElem?_eq_some_iff.mp hm).1, hm]
    · rcases Nat.lt_or_ge l w.members.length with hl | hl
      · rw [List.getElem?_append_left hl] at hm'
        exact hw.lost.members l m' hm' x hx
      · -- the new client has no calls
        rw [List.getElem?_append_right hl] at hm'
        obtain rfl := List.mem_singleton.mp (List.mem_of_getElem? hm')
        simp [Member.items] at hx

/-- **A dead processor remains dead, and a lost call lost**, whatever delays are asked for. -/
theorem Abandons.stride (hw : w.Abandons k n) (h : w.Stride w') : w'.Abandons k n := by
  cases h with
  | process hm hstep => exact hw.process hm hstep
  | step h =>
    cases h with
    | progress h => exact hw.progress h
    | accept hm h => exact hw.accept hm h
    | shutdown i => exact (spares_beginClose w i).abandons hw
    | start h => exact hw.start h
    | elsewhere h => exact h.spares.abandons hw

theorem Abandons.strides (hw : w.Abandons k n) (h : Relation.ReflTransGen Stride w w') :
    w'.Abandons k n := by
  induction h with
  | refl => exact hw
  | tail _ h ih => exact ih.stride h

/-- **A step that a processor survives is one of the interleavings.** -/
theorem progress_of_process {delay? : Job → StoreReply → Option Duration} {processor : Processor}
    (hm : w.members[k]? = some m)
    (hstep : m.processor.step? delay? w.clock = some (a, processor))
    (halive : processor.phase ≠ .dead) :
    w.Progress ((w.updateMember k fun m => { m with processor }).marks k a)
      ((w.updateMember k fun m => { m with processor }).act k a) :=
  .process hm (fun _ _ _ hd => of_decide_eq_true (Option.filter_eq_some_iff.mp hd).2)
    (Processor.step?_of_survives hstep halive)

theorem progress_of_stepProcessor?_of_survives (h : w.stepProcessor? k = some w')
    (halive : ¬w'.IsDead k) : w.Progress (w.processorMarks k) w' := by
  unfold stepProcessor? at h
  unfold processorMarks
  cases hm : w.members[k]? with
  | none =>
    rw [hm] at h
    cases h
  | some m =>
    rw [hm] at h
    dsimp only at h ⊢
    cases hstep : m.processor.step? (Job.delay? m.client.config.policy.rule w.die w.clock)
        w.clock with
    | none =>
      rw [hstep] at h
      cases h
    | some y =>
      obtain ⟨a, processor⟩ := y
      rw [hstep] at h
      cases h
      refine progress_of_process hm hstep fun hdead => halive (IsDead.act ?_ k a)
      exact ⟨{ m with processor }, getElem?_updateMember hm _, hdead⟩

/-- The schedule is an interleaving as long as all processors survive. -/
theorem steps_settleFor_of_survives (n : Nat) (w : World)
    (h : ∀ i ≤ n, ∀ m ∈ (settleFor i w).members, m.processor.phase ≠ .dead) :
    w.Steps (settleMarks n w) (settleFor n w) := by
  refine settleFor_induction n w (fun i _ => .refl) fun i hi w' marks w'' hstep hrest => ?_
  have halive (k : Nat) : ¬w'.IsDead k := by
    rintro ⟨m, hm, hdead⟩
    exact h (i + 1) hi m (settleFor_succ hstep ▸ List.mem_of_getElem? hm) hdead
  have hprogress := progress_of_step?_of
    (fun k hk => progress_of_stepProcessor?_of_survives hk (halive k)) hstep
  exact (Steps.refl.tail (.progress hprogress)).trans hrest

end World

end Coordination
