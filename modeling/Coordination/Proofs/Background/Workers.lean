import Coordination.Proofs.Background.Course
import Coordination.Proofs.Background.TaskThreads

/-!
# Threads for callbacks

A thread for callbacks of a world is one for tasks: its tasks are the deliveries that are handed to
it. A world hands a delivery over at once, so in between nobody has the lock; and it makes a
delivery at once, unless the callback waits for a processor.

## Main definitions

* `Worker.Step`: what can happen to a thread for callbacks
* `Worker.Mirrors`: whether a thread for callbacks is as far as a thread for tasks

## Main results

* `World.attends_of_step`: a step of a world happens to at most one of its threads
* `Worker.Mirrors.step`: what happens to the one can happen to the other
* `World.Reached.simulates`: the threads for callbacks of a world are threads for tasks
-/

namespace Coordination

/-- What may happen to a thread for callbacks at once, with the deliveries that it is handed. -/
inductive Worker.Step (x : Worker) : List (Nat × Delivery) → Worker → Prop
  /-- Nothing. -/
  | stay : Step x [] x
  /-- A delivery is handed to it. -/
  | gets (k : Nat) (d : Delivery) : Step x [(k, d)] { x with queue := x.queue ++ [(k, d)] }
  /-- The callback of a delivery begins to wait. -/
  | waits (hqueue : x.queue ≠ []) (hwaits : x.waits = false) : Step x [] { x with waits := true }
  /-- It makes its next delivery, or the rest of it. -/
  | makes (hqueue : x.queue ≠ []) : Step x [] (World.Worker.done x)

namespace World

/-- What may happen to the threads for callbacks at once. -/
inductive Attends (xs : List Worker) : List Worker → Prop
  /-- Nothing. -/
  | none : Attends xs xs
  /-- Something happens to one of them. -/
  | one {i : Nat} {x : Worker} {f : Worker → Worker} {new : List (Nat × Delivery)}
      (hx : xs[i]? = some x) (h : x.Step new (f x)) : Attends xs (xs.modify i f)
  /-- A new one gets a delivery. -/
  | new (id : WorkerId) (k : Nat) (d : Delivery) :
      Attends xs (xs ++ [{ id, queue := [(k, d)], waits := false }])

/-! ## What a world does to its threads -/

variable {w w' : World} {marks : List Mark}

section Handing

-- No two threads have the same name, so a delivery is handed to one.
variable (h : (w.workers.map (·.id)).Nodup)
include h

theorem attends_handOver (id : WorkerId) (k : Nat) (d : Delivery) :
    Attends w.workers (w.handOver id k d).workers := by
  unfold handOver
  split
  · rename_i hany
    obtain ⟨i, x, hx, -, heq⟩ := exists_map_eq_modify h hany
      (fun x => { x with queue := x.queue ++ [(k, d)] })
    dsimp only
    rw [heq]
    exact .one hx (.gets k d)
  · exact .new id k d

theorem attends_deliver (k : Nat) (t : Thread) (j : Job) (e : Event) :
    Attends w.workers (w.deliver k t j e).workers := by
  unfold deliver
  dsimp only
  split
  · exact attends_handOver h ..
  · split
    · rw [workers_run]
      exact .none
    · exact attends_handOver h ..

theorem attends_finish (k : Nat) (t : Thread) (j : Job) (reply : StoreReply) :
    Attends w.workers (w.finish k t j reply).workers := by
  unfold finish
  split
  · exact .none
  · split
    · exact attends_deliver h ..
    · dsimp only
      rw [← workers_tellings w k j.ticket t] at h ⊢
      exact attends_deliver h ..

theorem attends_complete (k : Nat) (t : Thread) (j : Job) (reply : StoreReply) :
    Attends w.workers (w.complete k t j reply).workers := by
  unfold complete
  split
  · exact .none
  · split
    · exact .none
    · exact attends_finish h ..

theorem attends_receive (r : IncomingReply) : Attends w.workers (w.receive r).workers := by
  unfold receive
  split
  · exact .none
  · dsimp only
    split
    · exact .none
    · exact attends_complete (w := w.updateMember _ _) h ..

theorem attends_release (k : Nat) : Attends w.workers (w.release k).2.workers := by
  unfold release
  split
  · exact attends_complete (w := w.updateMember _ _) h ..
  · exact .none

theorem attends_perform (k : Nat) (j : Job) : Attends w.workers (w.perform k j).workers := by
  unfold perform
  split
  · exact .none
  · rename_i m hm
    split
    · exact attends_deliver h ..
    · have hworkers : (w.foreground k m ensureRootOnce).2.workers = w.workers := rfl
      dsimp only
      split
      all_goals
        rename_i hforeground
        rw [hforeground] at hworkers
        rw [← hworkers] at h ⊢
      · rw [send_eq]
        exact .none
      · split
        · exact attends_complete h ..
        · exact attends_deliver h ..
      · exact attends_deliver h ..

theorem attends_act (k : Nat) (a : Action) : Attends w.workers (w.act k a).workers := by
  cases a with
  | none => exact .none
  | perform j => exact attends_perform h k j
  | finish j reply => exact attends_finish h ..

end Handing

/-- A thread for callbacks does a piece of work. -/
theorem attends_of_serves {i : Nat} (h : w.Serves i w') : Attends w.workers w'.workers := by
  have hne {x : Worker} {y : Nat × Delivery} {queue : List (Nat × Delivery)}
      (hqueue : x.queue = y :: queue) : x.queue ≠ [] := by simp [hqueue]
  cases h with
  | gone hx hqueue => exact .one hx (.makes (hne hqueue))
  | resumes hx hqueue =>
    simp only [updateWorker, workers_note, workers_endClose]
    exact .one hx (.makes (hne hqueue))
  | waits hx hqueue hm hwaits =>
    exact .one hx (.waits (hne hqueue) (Bool.eq_false_iff.mpr hwaits))
  | runs hx hqueue =>
    simp only [updateWorker, workers_run]
    exact .one hx (.makes (hne hqueue))

/-- **A step of a world happens to at most one of its threads for callbacks.** -/
theorem attends_of_step (hw : w.Sound) (h : w.Step marks w') : Attends w.workers w'.workers := by
  cases h with
  | progress h =>
    cases h with
    | process hm hdelay hstep => exact attends_act (w := w.updateMember _ _) hw.threads ..
    | clear hm => exact attends_act (w := w.updateMember _ _) hw.threads ..
    | @receive r front back _ =>
      exact attends_receive (w := { w with incoming := front ++ back }) hw.threads r
    | release => exact attends_release hw.threads ..
    | deliver h => exact attends_of_serves (serves_of_stepWorker? h)
  | accept hm h =>
    unfold enqueue at h
    dsimp only at h
    split at h
    · cases h
    · cases h
      exact .none
  | shutdown k => exact .none
  | @start s t c _ _ h =>
    unfold start at h
    cases hstart : Client.start c with
    | error f =>
      rw [hstart] at h
      cases h
    | ok client =>
      rw [hstart] at h
      cases h
      exact .none
  | elsewhere h =>
    rw [h.workers]
    exact .none

end World

/-! ## What the threads are -/

namespace TaskThread

variable {s : TaskThread}

/-- The thread after it has been given a task that it has taken at once. -/
def given (s : TaskThread) : TaskThread :=
  { s with
    calls := s.calls ++ [.relieved], channel := s.channel ++ [s.calls.length]
    history := s.history ++ [.accepted s.calls.length] }

theorem steps_given (hs : s.Sound) (hlock : s.lock = none) (hopen : s.thread.isOpen = true)
    (hdropped : s.isDropped = false) : s.Steps s.given := by
  have hended : s.labour ≠ .ended := fun h => by simp [(hs.tidy.ended h).1] at hopen
  have harriving : s.brought.calls[s.calls.length]? = some .arriving := by simp [brought]
  refine (((Relation.ReflTransGen.refl.tail (.bring hdropped)).tail
    (.work (.enter harriving hlock))).tail
    (.work (.accept (n := s.calls.length) (by simp [brought]) (taker?_isSome_iff.mpr hopen)
      hended))).trans ?_
  have hgiven : (s.brought.calls.set s.calls.length .inside).set s.calls.length .relieved =
      s.calls ++ [.relieved] := by simp [brought]
  rw [given, ← hgiven, ← hlock]
  exact .refl

end TaskThread

/-- Whether a thread for callbacks is as far as a thread for tasks, when these deliveries have been
handed to it, in this order. -/
structure Worker.Mirrors (x : Worker) (ds : List (Nat × Delivery)) (s : TaskThread) : Prop where
  /-- The deliveries are the tasks that have been brought, -/
  calls : s.calls.length = ds.length
  /-- and taken, in order. -/
  accepted : s.accepted = List.range ds.length
  /-- What is to be made is what the thread has in its hands. -/
  queue : s.underway.map (ds[·]?) = x.queue.map some
  /-- The thread is in the middle of a task while the callback waits. -/
  waits : x.waits = false ↔ s.labour = .idle
  /-- Nobody has the lock, -/
  lock : s.lock = none
  /-- the thread takes tasks, -/
  isOpen : s.thread.isOpen = true
  /-- and it has not been dropped. -/
  isDropped : s.isDropped = false

namespace Worker.Mirrors

open TaskThread

variable {x x' : Worker} {ds : List (Nat × Delivery)} {s : TaskThread}

/-- A delivery is handed over. -/
theorem given (h : x.Mirrors ds s) (hs : s.Sound) (k : Nat) (d : Delivery) :
    Mirrors { x with queue := x.queue ++ [(k, d)] } (ds ++ [(k, d)]) s.given where
  calls := by simp [TaskThread.given, h.calls]
  accepted := by
    have haccepted := h.accepted
    simp only [TaskThread.accepted] at haccepted
    simp [TaskThread.accepted, TaskThread.given, haccepted, h.calls, List.range_succ]
  queue := by
    have hold : s.underway.map ((ds ++ [(k, d)])[·]?) = s.underway.map (ds[·]?) := by
      refine List.map_congr_left fun n hn => List.getElem?_append_left ?_
      rw [← h.calls]
      exact (List.getElem?_eq_some_iff.mp (hs.tidy.relieved n hn)).1
    have hunderway : s.given.underway = s.underway ++ [s.calls.length] :=
      (List.append_assoc ..).symm
    simp [hunderway, hold, h.queue, h.calls]
  waits := h.waits
  lock := h.lock
  isOpen := h.isOpen
  isDropped := h.isDropped

/-- A delivery is begun. -/
theorem take (h : x.Mirrors ds s) (hlabour : s.labour = .idle) (hqueue : x.queue ≠ []) :
    ∃ s' n, s.Step s' ∧ s'.labour = .busy n ∧ Mirrors { x with waits := true } ds s' := by
  have hunderway := underway_of_idle hlabour
  cases hchannel : s.channel with
  | nil =>
    have hnil := h.queue
    rw [hunderway, hchannel] at hnil
    exact absurd (List.map_eq_nil_iff.mp hnil.symm) hqueue
  | cons n rest =>
    rw [hchannel] at hunderway
    have haccepted := h.accepted
    have hmirrored := h.queue
    simp only [TaskThread.accepted] at haccepted
    rw [hunderway] at hmirrored
    exact ⟨_, n, .work (.take hchannel hlabour), rfl, h.calls, by simpa [TaskThread.accepted],
      hmirrored, by simp, h.lock, h.isOpen, h.isDropped⟩

/-- A delivery has been made. -/
theorem complete {n : Nat} (h : x.Mirrors ds s) (hlabour : s.labour = .busy n) :
    ∃ s', s.Step s' ∧ Mirrors (World.Worker.done x) ds s' := by
  have haccepted := h.accepted
  have hmirrored := h.queue
  simp only [TaskThread.accepted] at haccepted
  rw [underway_of_busy hlabour, List.map_cons] at hmirrored
  refine ⟨_, .work (.complete hlabour), h.calls, by simpa [TaskThread.accepted], ?_, by
    simp [World.Worker.done], h.lock, h.isOpen, h.isDropped⟩
  have htail := congrArg List.tail hmirrored
  rwa [List.tail_cons, ← List.map_tail] at htail

/-- **What happens to the thread for callbacks can happen to the thread for tasks.** -/
theorem step {new : List (Nat × Delivery)} (h : x.Mirrors ds s) (hs : s.Sound)
    (hstep : x.Step new x') : ∃ s', s.Steps s' ∧ x'.Mirrors (ds ++ new) s' := by
  cases hstep with
  | stay => exact ⟨s, .refl, (List.append_nil ds).symm ▸ h⟩
  | gets k d => exact ⟨_, steps_given hs h.lock h.isOpen h.isDropped, h.given hs k d⟩
  | waits hqueue hwaits =>
    rw [List.append_nil]
    obtain ⟨s', n, hstep, -, hmirrors⟩ := h.take (h.waits.mp hwaits) hqueue
    exact ⟨s', .single hstep, hmirrors⟩
  | makes hqueue =>
    rw [List.append_nil]
    cases hlabour : s.labour with
    | idle =>
      obtain ⟨s', n, hstep, hbusy, hmirrors⟩ := h.take hlabour hqueue
      obtain ⟨s'', hstep', hmirrors⟩ := hmirrors.complete hbusy
      exact ⟨s'', .tail (.single hstep) hstep', hmirrors⟩
    | busy n =>
      obtain ⟨s', hstep, hmirrors⟩ := h.complete hlabour
      exact ⟨s', .single hstep, hmirrors⟩
    | ended =>
      have hopen := h.isOpen
      rw [(hs.tidy.ended hlabour).1] at hopen
      cases hopen

/-- A thread that nothing has been handed to yet. -/
theorem spawned (id : WorkerId) :
    Mirrors { id, queue := [], waits := false } [] (.spawned (Thread.worker id).name false) where
  calls := rfl
  accepted := rfl
  queue := rfl
  waits := by simp [TaskThread.spawned]
  lock := rfl
  isOpen := rfl
  isDropped := rfl

end Worker.Mirrors

namespace World

/-- A thread has been there, and something may have happened to it, or it is new. -/
theorem Attends.of_getElem? {xs xs' : List Worker} {i : Nat} {x' : Worker} (h : Attends xs xs')
    (hx' : xs'[i]? = some x') :
    (∃ x new, xs[i]? = some x ∧ x.Step new x') ∨
      xs.length ≤ i ∧ ∃ id k d, x' = { id, queue := [(k, d)], waits := false } := by
  cases h with
  | none => exact .inl ⟨x', [], hx', .stay⟩
  | @one n x f new hx h =>
    rw [List.getElem?_modify] at hx'
    obtain ⟨y, hy, rfl⟩ := Option.map_eq_some_iff.mp hx'
    by_cases hn : n = i
    · subst hn
      obtain rfl : x = y := Option.some.inj (hx.symm.trans hy)
      exact .inl ⟨x, new, hx, by simpa using h⟩
    · exact .inl ⟨y, [], hy, by simpa [hn] using .stay⟩
  | new id k d =>
    rcases lt_or_ge i xs.length with hi | hi
    · rw [List.getElem?_append_left hi] at hx'
      exact .inl ⟨x', [], hx', .stay⟩
    · rw [List.getElem?_append_right hi] at hx'
      exact .inr ⟨hi, id, k, d, List.mem_singleton.mp (List.mem_of_getElem? hx')⟩

/-- **The threads for callbacks of a world are threads for tasks**, of the same name. A new one is
as far as a thread that has been brought the first delivery; and whatever the world does, a thread
for callbacks stays as far as a thread for tasks that is brought what is handed over. -/
theorem Reached.simulates {history marks : List Mark} {i : Nat} {x' : Worker}
    (hw : Reached history w) (h : w.Step marks w') (hx' : w'.workers[i]? = some x') :
    (∃ x new, w.workers[i]? = some x ∧ x.Step new x' ∧ ∀ ds s,
      (TaskThread.spawned (Thread.worker x.id).name false).Steps s → x.Mirrors ds s →
        ∃ s', s.Steps s' ∧ x'.Mirrors (ds ++ new) s') ∨
    w.workers.length ≤ i ∧ ∃ y s,
      (TaskThread.spawned (Thread.worker x'.id).name false).Steps s ∧ x'.Mirrors [y] s := by
  rcases (attends_of_step hw.accounted.sound h).of_getElem? hx' with
    ⟨x, new, hx, hstep⟩ | ⟨hi, id, k, d, rfl⟩
  · exact .inl ⟨x, new, hx, hstep, fun ds s hs hmirrors =>
      hmirrors.step (TaskThread.sound_spawned.steps hs) hstep⟩
  · have hspawned : (TaskThread.spawned (Thread.worker id).name false).Sound :=
      TaskThread.sound_spawned
    exact .inr ⟨hi, (k, d), _, TaskThread.steps_given hspawned rfl rfl rfl,
      (Worker.Mirrors.spawned id).given hspawned k d⟩

end World

end Coordination
