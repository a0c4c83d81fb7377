import Coordination.Proofs.Background.Turns
import Coordination.Simulation.Schedule

/-!
# Who has a background call

All the background calls of a world, gathered from the processors, the line to the store, the
threads for callbacks and the callers, and what each piece of work does to them: it brings the calls
that it is about to their next places, and leaves the others alone.

Between two pieces of work a call is always somewhere, and within one it is in the hands of the
function that does the work. So the lemmas here say what a function adds to the calls of a world
that does not have the function's own call.

## Main definitions

* `World.items`: the calls of a world, with the places where they are
* `World.Sound`: what a world keeps in order
* `World.Adds`: one world has the calls of another, and some more

## Main results

* `World.exists_adds_perform`: an attempt at a call
* `World.exists_adds_finish`, `World.exists_adds_complete`, `World.exists_adds_receive`: a call
  whose reply has come
* `World.adds_run`: a delivery
-/

namespace Coordination

/-! ## Gathering -/

section Gathering

variable {α β : Type} {f : Nat → α → Multiset Item} {as : List α} {i : Nat} {a : α} {x : Item}

/-- What the entries of a list have, each by its index. -/
def gather (f : Nat → α → Multiset Item) : List α → Multiset Item
  | [] => 0
  | a :: as => f 0 a + gather (fun i => f (i + 1)) as

theorem gather_append (f : Nat → α → Multiset Item) (as : List α) (a : α) :
    gather f (as ++ [a]) = f as.length a + gather f as := by
  induction as generalizing f with
  | nil => rfl
  | cons b as ih =>
    simp only [List.cons_append, gather, ih, List.length_cons]
    exact add_left_comm ..

theorem gather_map (f : Nat → β → Multiset Item) (g : α → β) (as : List α) :
    gather f (as.map g) = gather (fun i a => f i (g a)) as := by
  induction as generalizing f with
  | nil => rfl
  | cons a as ih => simp only [List.map_cons, gather, ih]

/-- An entry is changed, and with it what it has. -/
theorem gather_modify_add (h : as[i]? = some a) (g : α → α) :
    gather f (as.modify i g) + f i a = f i (g a) + gather f as := by
  induction as generalizing f i with
  | nil => cases h
  | cons b as ih =>
    cases i with
    | zero =>
      obtain rfl : b = a := by simpa using h
      simp only [List.modify_zero_cons, gather, add_assoc, add_comm (f 0 b)]
    | succ i =>
      have hrest := ih (f := fun i => f (i + 1)) (i := i) (by simpa using h)
      simp only [List.modify_succ_cons, gather, add_assoc, hrest]
      exact add_left_comm ..

theorem gather_modify (h : as[i]? = some a) {g : α → α} {xs : Multiset Item}
    (hg : f i (g a) = xs + f i a) : gather f (as.modify i g) = xs + gather f as := by
  refine add_right_cancel (b := f i a) ?_
  rw [gather_modify_add h, hg, add_right_comm]

theorem gather_modify_eq {g : α → α} (hg : ∀ a, f i (g a) = f i a) :
    gather f (as.modify i g) = gather f as := by
  cases h : as[i]? with
  | none => rw [List.modify_eq_self (by simpa using h)]
  | some a =>
    have hsame : f i (g a) = 0 + f i a := by rw [hg, zero_add]
    rw [gather_modify h hsame, zero_add]

theorem le_gather (h : as[i]? = some a) : f i a ≤ gather f as := by
  induction as generalizing f i with
  | nil => cases h
  | cons b as ih =>
    cases i with
    | zero =>
      obtain rfl : b = a := by simpa using h
      exact Multiset.le_add_right ..
    | succ i =>
      exact (ih (f := fun i => f (i + 1)) (by simpa using h)).trans (Multiset.le_add_left ..)

theorem mem_gather : x ∈ gather f as ↔ ∃ i a, as[i]? = some a ∧ x ∈ f i a := by
  refine ⟨fun hx => ?_, fun ⟨i, a, h, hx⟩ => Multiset.mem_of_le (le_gather h) hx⟩
  induction as generalizing f with
  | nil => cases Multiset.notMem_zero _ hx
  | cons b as ih =>
    rcases Multiset.mem_add.mp hx with hx | hx
    · exact ⟨0, b, rfl, hx⟩
    · obtain ⟨i, a, h, hx⟩ := ih hx
      exact ⟨i + 1, a, by simpa using h, hx⟩

end Gathering

/-! ## The calls of a world -/

/-- The calls that a client has. -/
def Member.items (k : Nat) (m : Member) : Multiset Item :=
  m.processor.items k + ↑(m.held.map fun x => Item.flying k x.1 x.2)

/-- The call of a reply. -/
def IncomingReply.item (r : IncomingReply) : Item := .flying r.client r.job r.reply

/-- The calls whose events have been handed to a thread. -/
def Worker.items (x : Worker) : Multiset Item := ↑(x.queue.map fun y => Item.handed y.1 y.2)

/-- The calls of a number whose events have been delivered. -/
def CallLog.items (n : Nat) (c : CallLog) : Multiset Item := ↑(c.deliveries.map (Item.delivered n))

namespace World

/-- The calls of a world, with the places where they are. -/
def items (w : World) : Multiset Item :=
  gather (fun k m => m.items k) w.members + ↑(w.incoming.map IncomingReply.item) +
    gather (fun _ x => x.items) w.workers + gather (fun n c => c.items n) w.calls

/-- What a world keeps in order. -/
structure Sound (w : World) : Prop where
  /-- The processors do. -/
  processors : ∀ (k : Nat) (m : Member), w.members[k]? = some m → m.processor.Sound
  /-- No two threads have the same name. -/
  threads : (w.workers.map (·.id)).Nodup
  /-- A thread waits only for a processor that is about to end. -/
  waiting : ∀ x ∈ w.workers, x.waits → ∃ (k : Nat) (d : Delivery) (queue : List (Nat × Delivery))
    (m : Member), x.queue = (k, d) :: queue ∧ w.members[k]? = some m ∧
      m.processor.gateOpen = false

/-- Whether a world has the calls of another one, and some more. -/
structure Adds (w w' : World) (xs : Multiset Item) : Prop where
  /-- It keeps in order what it should. -/
  sound : w'.Sound
  /-- It has these calls more. -/
  items : w'.items = xs + w.items
  /-- It has the same clients. -/
  members : w'.members.length = w.members.length
  /-- It counts the same calls. -/
  calls : w'.calls.length = w.calls.length

variable {w w' w'' : World} {k n : Nat} {m : Member} {t : Thread} {d : Delivery} {j : Job}
  {xs ys : Multiset Item} {reply : StoreReply} {e : Event}

theorem Adds.refl (hw : w.Sound) : w.Adds w 0 := ⟨hw, (zero_add _).symm, rfl, rfl⟩

theorem Adds.trans (h : w.Adds w' xs) (h' : w'.Adds w'' ys) : w.Adds w'' (ys + xs) where
  sound := h'.sound
  items := by rw [h'.items, h.items, add_assoc]
  members := h'.members.trans h.members
  calls := h'.calls.trans h.calls

/-- What adds nothing may come before. -/
theorem Adds.after (h : w.Adds w' 0) (h' : w'.Adds w'' xs) : w.Adds w'' xs := by
  simpa using h.trans h'

/-! ## Changes -/

theorem adds_elsewhere (hw : w.Sound) (clock : Nat) (store : Store) :
    w.Adds { w with clock, store } 0 :=
  ⟨⟨hw.processors, hw.threads, hw.waiting⟩, (zero_add _).symm, rfl, rfl⟩

theorem Sound.updateMember {f : Member → Member} (hw : w.Sound) (hm : w.members[k]? = some m)
    (hsound : (f m).processor.Sound)
    (hgate : m.processor.gateOpen = false → (f m).processor.gateOpen = false) :
    (w.updateMember k f).Sound where
  processors := by
    intro i m' hm'
    simp only [World.updateMember, List.getElem?_modify] at hm'
    by_cases hi : k = i
    · subst hi
      simp only [hm, if_true, Option.map_eq_map, Option.map_some, Option.some.injEq] at hm'
      exact hm' ▸ hsound
    · simp only [hi, if_false, id_map'] at hm'
      exact hw.processors i m' hm'
  threads := hw.threads
  waiting := by
    intro x hx hwaits
    obtain ⟨i, d, queue, m', hqueue, hm', hclosed⟩ := hw.waiting x hx hwaits
    by_cases hi : k = i
    · subst hi
      obtain rfl : m = m' := by simpa [hm] using hm'
      exact ⟨k, d, queue, f m, hqueue, by simp [World.updateMember, hm], hgate hclosed⟩
    · exact ⟨i, d, queue, m', hqueue, by simp [World.updateMember, hi, hm'], hclosed⟩

theorem getElem?_updateMember (hm : w.members[k]? = some m) (f : Member → Member) :
    (w.updateMember k f).members[k]? = some (f m) := by
  simp [updateMember, hm]

theorem items_updateMember (hm : w.members[k]? = some m) (f : Member → Member) :
    (w.updateMember k f).items + m.items k = (f m).items k + w.items := by
  have hgathered := gather_modify_add (f := fun k (m : Member) => m.items k) hm f
  simp only [World.items, updateMember]
  rw [add_right_comm, add_right_comm _ _ (m.items k), add_right_comm _ _ (m.items k), hgathered]
  simp only [add_assoc]

/-- A client is changed. -/
theorem adds_updateMember {f : Member → Member} (hw : w.Sound) (hm : w.members[k]? = some m)
    (hsound : (f m).processor.Sound)
    (hgate : m.processor.gateOpen = false → (f m).processor.gateOpen = false)
    (hitems : (f m).items k = xs + m.items k) : w.Adds (w.updateMember k f) xs where
  sound := hw.updateMember hm hsound hgate
  items := by
    refine add_right_cancel (b := m.items k) ?_
    rw [items_updateMember hm, hitems, add_right_comm]
  members := List.length_modify ..
  calls := rfl

/-- A client is changed in what does not matter to its calls. -/
theorem adds_updateMember_of_eq {f : Member → Member} (hw : w.Sound) (k : Nat)
    (hf : ∀ m, (f m).processor = m.processor ∧ (f m).held = m.held) :
    w.Adds (w.updateMember k f) 0 := by
  cases hm : w.members[k]? with
  | none =>
    have hself : w.updateMember k f = w := by
      rw [updateMember, List.modify_eq_self (by simpa using hm)]
    rw [hself]
    exact .refl hw
  | some m =>
    obtain ⟨hprocessor, hheld⟩ := hf m
    refine adds_updateMember hw hm ?_ ?_ ?_
    · exact hprocessor ▸ hw.processors k m hm
    · exact fun h => hprocessor ▸ h
    · rw [Member.items, hprocessor, hheld, zero_add]
      rfl

/-- A call's log is changed. -/
theorem adds_updateCall {f : CallLog → CallLog} {c : CallLog} (hw : w.Sound)
    (hc : w.calls[n]? = some c) (hitems : (f c).items n = xs + c.items n) :
    w.Adds (w.updateCall n f) xs where
  sound := ⟨hw.processors, hw.threads, hw.waiting⟩
  items := by
    simp only [World.items, updateCall, gather_modify hc hitems]
    exact add_left_comm ..
  members := rfl
  calls := List.length_modify ..

/-- A call's log is changed in what is not its deliveries. -/
theorem adds_updateCall_of_eq {f : CallLog → CallLog} (hw : w.Sound) (n : Nat)
    (hf : ∀ c, (f c).deliveries = c.deliveries) : w.Adds (w.updateCall n f) 0 where
  sound := ⟨hw.processors, hw.threads, hw.waiting⟩
  items := by
    have hitems : ∀ c, (f c).items n = c.items n := fun c => by
      rw [CallLog.items, hf, CallLog.items]
    simp only [World.items, updateCall, gather_modify_eq hitems, zero_add]
  members := rfl
  calls := List.length_modify ..

/-! ## Delivering -/

theorem adds_tell (hw : w.Sound) (k ticket : Nat) (t : Thread) (x : Telling) :
    w.Adds (tell k ticket t w x) 0 := by
  cases x with
  | callback | callError => exact adds_updateCall_of_eq hw ticket fun _ => rfl
  | listener | clientError => exact adds_updateMember_of_eq hw k fun _ => ⟨rfl, rfl⟩

theorem adds_tellings (hw : w.Sound) (k ticket : Nat) (t : Thread) (tellings : List Telling) :
    w.Adds (tellings.foldl (tell k ticket t) w) 0 := by
  induction tellings generalizing w with
  | nil => exact .refl hw
  | cons x tellings ih =>
    have hx := adds_tell hw k ticket t x
    exact hx.after (ih hx.sound)

/-- A delivery is noted. -/
theorem adds_note (hw : w.Sound) (hm : w.members[k]? = some m) (hd : d.ticket < w.calls.length)
    (t : Thread) : w.Adds (w.note k t d) {.delivered d.ticket d.event} := by
  unfold note
  rw [hm]
  dsimp only
  have htold := adds_tellings hw k d.ticket t
    (d.tellings (m.eventListeners.map (·.fault)) m.errorListeners.length)
  refine htold.after ?_
  refine adds_updateCall htold.sound (List.getElem?_eq_getElem (htold.calls ▸ hd)) ?_
  rw [CallLog.items, List.map_append, ← Multiset.coe_add, add_comm]
  rfl

theorem adds_foreground {α : Type} (hw : w.Sound) (k : Nat) (m : Member) (work : Work α) :
    w.Adds (w.foreground k m work).2 0 := by
  exact (adds_elsewhere hw _ _).after
    (adds_updateMember_of_eq (adds_elsewhere hw _ _).sound k fun _ => ⟨rfl, rfl⟩)

theorem adds_beginClose (hw : w.Sound) (k : Nat) : w.Adds (w.beginClose k) 0 := by
  cases hm : w.members[k]? with
  | none =>
    have hself : w.beginClose k = w := by
      rw [beginClose, updateMember, List.modify_eq_self (by simpa using hm)]
    rw [hself]
    exact .refl hw
  | some m =>
    have hp := hw.processors k m hm
    refine adds_updateMember hw hm hp.shutdown (fun _ => hp.gateOpen_shutdown) ?_
    rw [Member.items, hp.items_shutdown, zero_add]
    rfl

theorem adds_endClose (hw : w.Sound) (k : Nat) : w.Adds (w.endClose k) 0 := by
  unfold endClose
  split
  · exact .refl hw
  · exact adds_elsewhere hw w.clock _

theorem adds_react (hw : w.Sound) (k : Nat) (m : Member) (r : Reaction) :
    w.Adds (w.react k m r) 0 := by
  unfold react
  split
  · split
    · exact .refl hw
    · have hbegun := adds_beginClose hw k
      exact hbegun.after (adds_endClose hbegun.sound k)
  · exact adds_foreground hw k m _
  · exact .refl hw

/-- A delivery is made. -/
theorem adds_run (hw : w.Sound) (hk : k < w.members.length) (hd : d.ticket < w.calls.length)
    (t : Thread) : w.Adds (w.run k t d) {.delivered d.ticket d.event} := by
  unfold run
  split
  · rename_i m r _ _
    have hreact := adds_react hw k m r
    refine hreact.after ?_
    exact adds_note hreact.sound (List.getElem?_eq_getElem (hreact.members ▸ hk))
      (hreact.calls ▸ hd) t
  · exact adds_note hw (List.getElem?_eq_getElem hk) hd t

/-! ## Handing over -/

/-- In a list without repetitions, changing the entry of a name is changing it where it is. -/
theorem exists_map_eq_modify {α β : Type} [BEq β] [LawfulBEq β] {name : α → β} {as : List α} {b : β}
    (hnodup : (as.map name).Nodup) (hany : as.any (name · == b)) (g : α → α) :
    ∃ i a, as[i]? = some a ∧ name a = b ∧
      (as.map fun a => if name a == b then g a else a) = as.modify i g := by
  induction as with
  | nil => cases hany
  | cons a as ih =>
    simp only [List.map_cons, List.nodup_cons, List.mem_map, not_exists, not_and] at hnodup
    by_cases ha : name a = b
    · refine ⟨0, a, rfl, ha, ?_⟩
      have hrest : (as.map fun a => if name a == b then g a else a) = as := by
        refine (List.map_congr_left fun x hx => ?_).trans (List.map_id as)
        have hne : name x ≠ b := fun h => hnodup.1 x hx (h.trans ha.symm)
        simp [hne]
      simp only [List.map_cons, hrest, ha, beq_self_eq_true, if_true, List.modify_zero_cons]
    · have hany' : as.any (name · == b) := by simpa [ha] using hany
      obtain ⟨i, x, hx, hname, heq⟩ := ih hnodup.2 hany'
      refine ⟨i + 1, x, by simpa using hx, hname, ?_⟩
      simp [ha, heq]

/-- A thread for a delivery is one that is there, or a new one. -/
theorem nodup_handOver (h : (w.workers.map (·.id)).Nodup) (id : WorkerId) (k : Nat) (d : Delivery) :
    ((w.handOver id k d).workers.map (·.id)).Nodup := by
  unfold handOver
  split
  · have hids : (w.workers.map fun x =>
        if x.id == id then { x with queue := x.queue ++ [(k, d)] } else x).map (·.id) =
          w.workers.map (·.id) := by
      rw [List.map_map]
      refine List.map_congr_left fun x _ => ?_
      simp only [Function.comp]
      split <;> rfl
    exact hids ▸ h
  · rename_i hany
    rw [List.map_append, List.nodup_append]
    refine ⟨h, by simp, ?_⟩
    intro a ha b hb hab
    obtain ⟨x, hx, rfl⟩ := List.mem_map.mp ha
    obtain rfl : b = id := by simpa using hb
    exact hany (List.any_eq_true.mpr ⟨x, hx, by simpa using hab⟩)

/-- A delivery is handed to a thread. -/
theorem adds_handOver (hw : w.Sound) (id : WorkerId) (k : Nat) (d : Delivery) :
    w.Adds (w.handOver id k d) {.handed k d} := by
  have hthreads := nodup_handOver hw.threads id k d
  unfold handOver at hthreads ⊢
  split at hthreads
  · rename_i hany
    rw [if_pos hany]
    refine ⟨⟨hw.processors, hthreads, ?_⟩, ?_, rfl, rfl⟩
    · intro x hx hwaits
      obtain ⟨x, hmem, rfl⟩ := List.mem_map.mp hx
      split at hwaits
      · -- what the thread waits for stays at the head of its queue
        rename_i hid
        obtain ⟨i, d', queue, m, hqueue, hm, hclosed⟩ := hw.waiting x hmem hwaits
        exact ⟨i, d', queue ++ [(k, d)], m, by simp [hid, hqueue], hm, hclosed⟩
      · rename_i hid
        simpa only [hid, if_false, Bool.false_eq_true] using hw.waiting x hmem hwaits
    · -- one thread has the name, so one queue grows
      obtain ⟨i, x, hx, -, heq⟩ := exists_map_eq_modify hw.threads hany
        (fun x => { x with queue := x.queue ++ [(k, d)] })
      have hitems : ({ x with queue := x.queue ++ [(k, d)] } : Worker).items =
          {.handed k d} + x.items := by
        rw [Worker.items, List.map_append, ← Multiset.coe_add, add_comm]
        rfl
      have hgathered := gather_modify (f := fun _ (x : Worker) => x.items) hx
        (g := fun x => { x with queue := x.queue ++ [(k, d)] }) hitems
      simp only [World.items, heq, hgathered]
      rw [add_left_comm, add_assoc]
  · rename_i hany
    rw [if_neg hany]
    refine ⟨⟨hw.processors, hthreads, ?_⟩, ?_, rfl, rfl⟩
    · intro x hx hwaits
      rcases List.mem_append.mp hx with hx | hx
      · exact hw.waiting x hx hwaits
      · obtain rfl := List.mem_singleton.mp hx
        cases hwaits
    · simp only [World.items, gather_append]
      rw [add_left_comm, add_assoc]
      rfl

/-- The event of a call is brought on its way. -/
theorem exists_adds_deliver (hw : w.Sound) (hk : k < w.members.length)
    (hj : j.ticket < w.calls.length) (t : Thread) (e : Event) :
    ∃ x, x.EndsWith k j e ∧ w.Adds (w.deliver k t j e) {x} := by
  unfold deliver
  dsimp only
  split
  · exact ⟨_, .inl rfl, adds_handOver hw _ k _⟩
  · split
    · exact ⟨_, .inr rfl, adds_run hw hk hj t⟩
    · exact ⟨_, .inl rfl, adds_handOver hw _ k _⟩

/-! ## Replies -/

/-- A call is finished with the event that its reply comes to. -/
theorem exists_adds_finish (hw : w.Sound) (hm : w.members[k]? = some m)
    (hj : j.ticket < w.calls.length) (t : Thread) (reply : StoreReply) :
    ∃ x, x.EndsWith k j (j.outcome m.client.space reply) ∧
      w.Adds (w.finish k t j reply) {x} := by
  have hk : k < w.members.length := (List.getElem?_eq_some_iff.mp hm).1
  unfold finish Job.outcome
  rw [hm]
  dsimp only
  cases j.event m.client.space reply with
  | ok e => exact exists_adds_deliver hw hk hj t e
  | error f =>
    have htold := adds_tellings hw k j.ticket t
      (Telling.report j.mode.errorListener m.errorListeners.length
        ⟨"could not translate background result", f⟩)
    obtain ⟨x, hx, hadds⟩ := exists_adds_deliver htold.sound (htold.members ▸ hk)
      (htold.calls ▸ hj) t (j.failedEvent .runtimeInconsistency)
    exact ⟨x, hx, htold.after hadds⟩

/-- A reply is brought to the processor, or the call is finished. -/
theorem exists_adds_complete (hw : w.Sound) (hm : w.members[k]? = some m)
    (hj : j.ticket < w.calls.length) (t : Thread) (reply : StoreReply) :
    ∃ x, (x = .answered k j reply ∨ x.EndsWith k j (j.outcome m.client.space reply)) ∧
      w.Adds (w.complete k t j reply) {x} := by
  have hp := hw.processors k m hm
  unfold complete
  rw [hm]
  dsimp only
  rw [hp.complete?_eq]
  by_cases hgate : m.processor.gateOpen
  · rw [if_pos hgate]
    refine ⟨_, .inl rfl, ?_⟩
    refine adds_updateMember hw hm (hp.push hgate (by simp)) id ?_
    rw [Member.items, Processor.items_push, add_assoc]
    rfl
  · rw [if_neg hgate]
    obtain ⟨x, hx, hadds⟩ := exists_adds_finish hw hm hj t reply
    exact ⟨x, .inr hx, hadds⟩

/-- A reply is held back. -/
theorem adds_hold (hw : w.Sound) (hk : k < w.members.length) (j : Job) (reply : StoreReply) :
    w.Adds (w.updateMember k fun m => { m with held := m.held ++ [(j, reply)] })
      {.flying k j reply} := by
  have hm := List.getElem?_eq_getElem hk
  have hp : w.members[k].processor.Sound := hw.processors k _ hm
  refine adds_updateMember hw hm hp id ?_
  simp only [Member.items, List.map_append, ← Multiset.coe_add]
  rw [← add_assoc, add_comm]
  rfl

/-- A reply comes in. -/
theorem exists_adds_receive {r : IncomingReply} (hw : w.Sound)
    (hm : w.members[r.client]? = some m) (hj : r.job.ticket < w.calls.length) :
    ∃ x, x.Meets m.client.space r.client r.job (tampered m.tampering r.reply).1 ∧
      w.Adds (w.receive r) {x} := by
  unfold receive
  rw [hm]
  dsimp only
  generalize tampered m.tampering r.reply = y
  obtain ⟨reply, tampering⟩ := y
  have htampered := adds_updateMember_of_eq (f := fun m => { m with tampering }) hw r.client
    fun _ => ⟨rfl, rfl⟩
  have hm' : (w.updateMember r.client fun m => { m with tampering }).members[r.client]? =
      some { m with tampering } :=
    getElem?_updateMember hm _
  split
  · refine ⟨_, .inl rfl, htampered.after ?_⟩
    exact adds_hold htampered.sound (List.getElem?_eq_some_iff.mp hm').1 r.job reply
  · obtain ⟨x, hx, hadds⟩ :=
      exists_adds_complete htampered.sound hm' (htampered.calls ▸ hj) .io reply
    exact ⟨x, .inr hx, htampered.after hadds⟩

/-! ## Attempts -/

/-- What is marked when a client's processor asks for something. -/
def marks (w : World) (k : Nat) : Action → List Mark
  | .perform j =>
    match w.members[k]?, j.decided with
    | some m, none =>
      match (w.foreground k m ensureRootOnce).1 with
      | .ok () => [.sent j.ticket]
      | .error (.store e) => if e.isRetryable then [.unrooted j.ticket] else []
      | .error _ => []
    | _, _ => []
  | _ => []

/-- A reply is on its way. -/
theorem adds_incoming (hw : w.Sound) (store : Store) (r : IncomingReply) :
    w.Adds { w with store, incoming := w.incoming ++ [r] } {r.item} := by
  refine ⟨⟨hw.processors, hw.threads, hw.waiting⟩, ?_, rfl, rfl⟩
  simp only [World.items, List.map_append, ← Multiset.coe_add, List.map_cons, List.map_nil,
    Multiset.coe_singleton]
  simp only [add_assoc, add_comm, add_left_comm]

/-- The store is asked. -/
theorem exists_adds_send (hw : w.Sound) (k : Nat) (m : Member) (j : Job) :
    ∃ reply, w.Adds (w.send k m j) {.flying k j reply} := by
  unfold send
  split
  · exact ⟨_, adds_incoming hw _ ⟨k, j, _⟩⟩
  · exact ⟨_, adds_incoming hw _ ⟨k, j, _⟩⟩

/-- **An attempt at a call** on the processor's thread. -/
theorem exists_adds_perform (hw : w.Sound) (hk : k < w.members.length)
    (hj : j.ticket < w.calls.length) (hhonest : j.IsHonest) :
    ∃ x, Attempt k j (w.marks k (.perform j)) x ∧ w.Adds (w.perform k j) {x} := by
  have hm := List.getElem?_eq_getElem hk
  unfold perform marks
  rw [hm]
  dsimp only
  cases hdecided : j.decided with
  | some e =>
    -- the event was known before the first attempt
    obtain ⟨x, hx, hadds⟩ := exists_adds_deliver hw hk hj (.processor k) e
    exact ⟨x, .ended (.inl rfl) (hx.ends (hhonest e hdecided)), hadds⟩
  | none =>
    dsimp only
    have hrooted := adds_foreground hw k w.members[k] ensureRootOnce
    generalize w.foreground k w.members[k] ensureRootOnce = y at hrooted ⊢
    obtain ⟨result, w'⟩ := y
    have hk' : k < w'.members.length := hrooted.members ▸ hk
    have hj' : (j.begun w.clock).ticket < w'.calls.length := hrooted.calls ▸ hj
    -- an event for the job that has been looked at is one for the job
    have hends {x : Item} {e : Event} (hx : x.EndsWith k (j.begun w.clock) e)
        (he : e.IsAbout j.payload) : x.Ends k j :=
      Item.EndsWith.ends (j := j) hx he
    have hover (code : ErrorCode) : ∃ x, x.Ends k j ∧
        w.Adds (w'.deliver k (.processor k) (j.begun w.clock) ((j.begun w.clock).failedEvent code))
          {x} := by
      obtain ⟨x, hx, hadds⟩ := exists_adds_deliver hrooted.sound hk' hj' (.processor k)
        ((j.begun w.clock).failedEvent code)
      exact ⟨x, hends hx (Event.isAbout_failed j.payload code), hrooted.after hadds⟩
    rcases result with f | _
    · cases f with
      | store e =>
        -- an error that is worth a retry goes through the queue, as if the store had replied
        by_cases he : e.isRetryable
        · simp only [he, if_true]
          obtain ⟨x, hx, hadds⟩ := exists_adds_complete hrooted.sound
            (List.getElem?_eq_getElem hk') hj' (.processor k) (j.payload.refused e)
          refine ⟨x, ?_, hrooted.after hadds⟩
          rcases hx with rfl | hx
          · exact .unrooted he
          · exact .ended (.inr rfl) (hends hx (Job.isAbout_outcome ..))
        · simp only [he]
          obtain ⟨x, hx, hadds⟩ := hover e.code
          exact ⟨x, .ended (.inl rfl) hx, hadds⟩
      | _ =>
        -- the client itself refuses its root
        obtain ⟨x, hx, hadds⟩ := hover _
        exact ⟨x, .ended (.inl rfl) hx, hadds⟩
    · obtain ⟨reply, hadds⟩ := exists_adds_send hrooted.sound k w.members[k] (j.begun w.clock)
      exact ⟨_, .sent, hrooted.after hadds⟩

end World

end Coordination
