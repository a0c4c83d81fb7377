import Coordination.Proofs.Background.ExactlyOnce
import Coordination.Proofs.Background.Workers

/-!
# Completions

A session asks its store at once, and has the completion of the call run with the store's reply on a
thread of its own. Whatever else happens, the thread is one like any other that is brought tasks, so
each completion fires once, and it brings what the store said to the call.

## Main definitions

* `AsyncSession`: a session with its thread and the replies of its calls
* `AsyncSession.told`: what the completion of a call has been told so far

## Main results

* `AsyncSession.told_eq`: a completion is told nothing but the reply of its call
* `TaskThread.each_task_runs_once`: each task is run once, by whom it should, and so is each
  completion
-/

namespace Coordination

/-! ## Sessions -/

/-- A session at work. Its calls and their completions are known by the same numbers. -/
structure AsyncSession where
  /-- The store. -/
  store : Store
  /-- The thread for completions. -/
  io : TaskThread
  /-- What the store has said to each call. -/
  replies : List StoreReply

namespace AsyncSession

/-- A session that has not called its store yet. -/
def opened (st : Store) : AsyncSession :=
  { store := st, io := .spawned Thread.io.name true, replies := [] }

/-- The session after a call: the store has been asked, and the thread is brought the completion. -/
def ask (s : Session) (p : Payload) (c : AsyncSession) : AsyncSession :=
  { store := (p.ask s c.store).2, io := c.io.brought
    replies := c.replies ++ [(p.ask s c.store).1] }

/-- A step of a session. -/
inductive Step (s : Session) (c : AsyncSession) : AsyncSession → Prop
  /-- A call is made. -/
  | ask (p : Payload) (hdropped : c.io.isDropped = false) : Step s c (c.ask s p)
  /-- The thread does something, or something is done to it. -/
  | io {io : TaskThread} (h : c.io.Step io) (hcalls : io.calls.length = c.io.calls.length) :
      Step s c { c with io }
  /-- Others change the store. -/
  | elsewhere (store : Store) : Step s c { c with store }

/-- Any number of steps. -/
abbrev Steps (s : Session) : AsyncSession → AsyncSession → Prop := Relation.ReflTransGen (Step s)

/-- What the completion of a call has been told. -/
def told (c : AsyncSession) (n : Nat) : List StoreReply :=
  (c.io.trail n).filterMap fun
    | .begun _ _ => c.replies[n]?
    | _ => none

variable {s : Session} {c c' : AsyncSession} {st : Store} {n : Nat} {reply : StoreReply}

/-- For its thread a session is one of those who bring tasks. -/
theorem Steps.io (h : c.Steps s c') : c.io.Steps c'.io := by
  induction h with
  | refl => exact .refl
  | tail _ h ih =>
    cases h with
    | ask p hdropped => exact ih.tail (.bring hdropped)
    | io h _ => exact ih.tail h
    | elsewhere => exact ih

/-- Each call has its reply and its completion. -/
theorem Steps.length_replies (h : c.Steps s c') (hc : c.replies.length = c.io.calls.length) :
    c'.replies.length = c'.io.calls.length := by
  induction h with
  | refl => exact hc
  | tail _ h ih =>
    cases h with
    | ask => simpa [ask, TaskThread.brought] using ih
    | io _ hcalls => exact ih.trans hcalls.symm
    | elsewhere => exact ih

/-- What the store has said to a call stays. -/
theorem Steps.getElem?_replies (h : c.Steps s c') (hn : c.replies[n]? = some reply) :
    c'.replies[n]? = some reply := by
  induction h with
  | refl => exact hn
  | tail _ h ih =>
    cases h with
    | ask => exact (List.getElem?_append_left (List.getElem?_eq_some_iff.mp ih).1).trans ih
    | io | elsewhere => exact ih

/-- **A completion is told the reply of its call**, and nothing else. -/
theorem told_eq (hn : c.replies[n]? = some reply)
    (htrail : c.io.trail n = TaskThread.Entry.taken n ∨ c.io.trail n = TaskThread.Entry.refused n) :
    c.told n = [reply] := by
  rcases htrail with htrail | htrail <;>
    simp [told, htrail, TaskThread.Entry.taken, TaskThread.Entry.refused, hn]

/-- A completion has been told no more than the reply of its call. -/
theorem told_isPrefix (hio : c.io.Sound) (hn : c.replies[n]? = some reply) :
    c.told n <+: [reply] := by
  have htold {es : List TaskThread.Entry} (h : c.io.trail n <+: es) :
      c.told n <+: es.filterMap fun
        | .begun _ _ => c.replies[n]?
        | _ => none :=
    h.filterMap _
  rcases hio.trail_taken_or_refused n with h | h
  · simpa [TaskThread.Entry.taken, hn] using htold h
  · simpa [TaskThread.Entry.refused, hn] using htold h

end AsyncSession

namespace TaskThread

/-- **Each task is run once.** Whatever the order in which tasks are brought to a thread, the thread
is shut down and dropped, and everybody works:

* the thread takes a task, begins it and ends it, or else it declines the task, and who has brought
  it begins it and ends it, each of these once and so far as things have got, and nothing happens
  to a task that has not been brought;
* it takes tasks as long as its sending end is there, and declines them afterwards; who runs a task
  is who the executor says, as it is when it is asked, and a world delivers an event there;
* it begins the tasks in the order in which it has taken them, and has run them all when it has
  ended;
* each piece of work brings the end closer, and when nobody can go on, each task has been run.

The threads for callbacks of a world are such threads, brought the deliveries that are handed to
them: whatever the world does, each goes on with what a thread for tasks may do.
The completions of a session's calls are such tasks, too. Each is told what the store has said to
its call, which is what a world has on its way, and when nobody can go on, it has been told so
once. -/
theorem each_task_runs_once :
    (∀ (name : String) (isJoinable : Bool) (s : TaskThread), (spawned name isJoinable).Steps s →
      (∀ n, s.trail n <+: Entry.taken n ∨ s.trail n <+: Entry.refused n) ∧
      (∀ n, s.calls.length ≤ n → s.trail n = []) ∧
      (∀ before e after, s.history = before ++ e :: after → e.Follows before) ∧
      (∀ n later r, s.calls[n]? = some .inside → s.Steps later → .begun r n ∈ later.history →
        (∀ caller, (Executor.thread s.thread).runner caller =
          (r.taker? s.thread).getD caller) ∧
        ∀ (w : World) (k : Nat) (t : Thread) (j : Job) (e : Event),
          j.mode.executor = some (.thread s.thread) →
          (r = .thread → w.deliver k t j e = w.handOver (.named s.thread.name) k (j.delivery e)) ∧
          (r = .caller → w.deliver k t j e = w.run k t (j.delivery e))) ∧
      s.begun .thread <+: s.accepted ∧
      (s.labour = .ended → ∀ n ∈ s.accepted, s.trail n = Entry.taken n) ∧
      (∀ s', s.Work s' → s'.toDo < s.toDo) ∧
      (∃ s', Relation.ReflTransGen Work s s' ∧ s'.IsAtRest) ∧
      (s.IsAtRest → s.begun .thread = s.accepted ∧
        ∀ n < s.calls.length, s.trail n = Entry.taken n ∨ s.trail n = Entry.refused n)) ∧
    (∀ (history marks : List Mark) (w w' : World) (i : Nat) (x' : Worker),
      World.Reached history w → w.Step marks w' → w'.workers[i]? = some x' →
      (∃ x new, w.workers[i]? = some x ∧ x.Step new x' ∧ ∀ ds s,
        (spawned (Thread.worker x.id).name false).Steps s → x.Mirrors ds s →
          ∃ s', s.Steps s' ∧ x'.Mirrors (ds ++ new) s') ∨
      w.workers.length ≤ i ∧ ∃ y s,
        (spawned (Thread.worker x'.id).name false).Steps s ∧ x'.Mirrors [y] s) ∧
    ∀ (session : Session) (st : Store) (c later : AsyncSession) (p : Payload),
      (AsyncSession.opened st).Steps session c → c.io.isDropped = false →
      (c.ask session p).Steps session later →
      (spawned Thread.io.name true).Steps later.io ∧
      later.told c.replies.length <+: [(p.ask session c.store).1] ∧
      (later.io.IsAtRest → later.told c.replies.length = [(p.ask session c.store).1]) ∧
      ∀ (w : World) (k : Nat) (m : Member) (j : Job), w.store = c.store → m.session = session →
        j.payload = p →
        (w.send k m j).store = (c.ask session p).store ∧
        (w.send k m j).incoming = w.incoming ++ [⟨k, j, (p.ask session c.store).1⟩] := by
  refine ⟨fun name isJoinable s h => ?_, fun history marks w w' i x' hw h => hw.simulates h,
    fun session st c later p hc hdropped hlater => ?_⟩
  · have hs := sound_spawned.steps h
    refine ⟨hs.trail_taken_or_refused, fun n hn => hs.trail_eq_nil hn, hs.recorded.follows,
      fun n later r hn hlater hr => ?_, ⟨s.channel, hs.recorded.order.symm⟩,
      fun hended n => hs.trail_of_ended hended, fun s' hwork => hwork.toDo_lt, s.exists_isAtRest,
      fun hrest => ⟨?_, fun n => hs.trail_of_isAtRest hrest⟩⟩
    · have htaker := (HasAsked.steps hs hn hlater).taker?_eq (hs.steps hlater) hr
      refine ⟨fun caller => congrArg (·.getD caller) htaker, fun w k t j e hj => ?_⟩
      constructor
      · rintro rfl
        simp only [World.deliver, hj, htaker, Runner.taker?]
      · rintro rfl
        simp only [World.deliver, hj, htaker, Runner.taker?]
    · rw [hs.recorded.order, (hs.isAtRest_iff.mp hrest).2.1, List.append_nil]
  · have hsteps : AsyncSession.Steps session _ later := (hc.tail (.ask p hdropped)).trans hlater
    have hreply : later.replies[c.replies.length]? = some (p.ask session c.store).1 :=
      hlater.getElem?_replies List.getElem?_concat_length
    have hio := sound_spawned.steps hsteps.io
    refine ⟨hsteps.io, AsyncSession.told_isPrefix hio hreply, fun hrest => ?_, ?_⟩
    · refine AsyncSession.told_eq hreply (hio.trail_of_isAtRest hrest ?_)
      rw [← hsteps.length_replies rfl]
      exact (List.getElem?_eq_some_iff.mp hreply).1
    · rintro w k m j hstore rfl rfl
      rw [World.send_eq, hstore]
      exact ⟨rfl, rfl⟩

/-! ## A thread that is shut down in between -/

/-- A thread that was shut down after it had taken two tasks and before it was asked about a third,
when all has been done and it has been dropped. -/
def retired : TaskThread :=
  { thread := (DeliveryThread.named "pool").shutdown, lock := none, channel := []
    labour := .ended, handle := .gone, calls := [.relieved, .relieved, .done]
    closers := [⟨false, .done⟩], isDropped := true
    history :=
      [.accepted 0, .accepted 1, .begun .thread 0, .closed, .declined 2, .ended .thread 0,
        .begun .caller 2, .begun .thread 1, .ended .caller 2, .ended .thread 1, .closed] }

/-- Three tasks come at once, and the thread is to be shut down while the first is being taken. -/
theorem steps_retired : (spawned "pool" true).Steps retired := by
  have hbrought : (spawned "pool" true).Steps (spawned "pool" true).brought.brought.brought :=
    ((Relation.ReflTransGen.refl.tail (.bring rfl)).tail (.bring rfl)).tail (.bring rfl)
  have hfirst := (hbrought.tail (.work (.enter (n := 0) rfl rfl))).tail
    (@Step.shutDown _ false rfl nofun)
  have hsecond := ((hfirst.tail (.work (.accept (n := 0) rfl rfl nofun))).tail
    (.work (.enter (n := 1) rfl rfl))).tail (.work (.accept (n := 1) rfl rfl nofun))
  have hclosed := ((hsecond.tail (.work (.take rfl rfl))).tail
    (.work (.close (i := 0) rfl rfl)))
  have hthird := (hclosed.tail (.work (.enter (n := 2) rfl rfl))).tail
    (.work (.decline (n := 2) rfl (.inl rfl)))
  have hwaiting := ((hthird.tail (.work (.complete rfl))).tail
    (.work (.begin (n := 2) rfl))).tail (.work (.await (i := 0) rfl rfl))
  have hdone := (((hwaiting.tail (.work (.take rfl rfl))).tail
    (.work (.finish (n := 2) rfl))).tail (.work (.complete rfl))).tail (.work (.leave rfl rfl rfl))
  exact (hdone.tail (.work (.join (i := 0) rfl rfl))).tail (.drop rfl (by decide) (by decide))

/-- Each of the three tasks is run once, two by the thread and one by who has brought it. A delivery
is in the hands of a thread of a world, and the completion of a call is told its reply. -/
theorem each_task_runs_once_of_retired :
    ((spawned "pool" true).Steps retired ∧ retired.IsAtRest ∧ retired.begun .thread = [0, 1] ∧
      ∀ n < 3, retired.trail n = Entry.taken n ∨ retired.trail n = Entry.refused n) ∧
    (∃ x, (World.settleFor 2 World.hurried).workers[0]? = some x ∧ x.queue.length = 1 ∧
      ∃ y s, (spawned (Thread.worker x.id).name false).Steps s ∧ x.Mirrors [y] s) ∧
    ∃ later, ((AsyncSession.opened (Store.initial.connect []).2).ask ⟨1, []⟩ World.errand).Steps
        ⟨1, []⟩ later ∧ later.io.IsAtRest ∧
      (World.errand.ask ⟨1, []⟩ (Store.initial.connect []).2).1.error? = none ∧
      later.told 0 = [(World.errand.ask ⟨1, []⟩ (Store.initial.connect []).2).1] := by
  obtain ⟨hthreads, hworlds, hsessions⟩ := each_task_runs_once
  refine ⟨?_, ?_, ?_⟩
  · have hrest : retired.IsAtRest :=
      (sound_spawned.steps steps_retired).isAtRest_iff.mpr (by decide)
    obtain ⟨-, -, -, -, -, -, -, -, hall⟩ := hthreads _ _ _ steps_retired
    obtain ⟨hbegun, htrails⟩ := hall hrest
    exact ⟨steps_retired, hrest, hbegun, htrails⟩
  · have hcalled : World.attended.Step [] World.called := .accept (k := 0) rfl rfl
    obtain ⟨later, hhurried⟩ := World.steps_settleFor_hurried (n := 1) (by decide)
    have hreached := (World.reached_attended.tail hcalled).trans hhurried
    have hsome : (World.settleFor 1 World.hurried).step?.isSome := by decide +kernel
    obtain ⟨w', hstep⟩ := Option.isSome_iff_exists.mp hsome
    have hpolicies : ∀ m ∈ (World.settleFor 1 World.hurried).members,
        m.client.config.policy = .nTimes 5 (.ofMillis 1) := by
      decide +kernel
    have hprogress := World.progress_of_step?
      (World.isTimely_of_nTimes hpolicies (by decide +kernel)) hstep
    rw [← World.settleFor_succ hstep] at hprogress
    have hqueue :
        ((World.settleFor 2 World.hurried).workers[0]?).map (·.queue.length) = some 1 := by
      decide +kernel
    obtain ⟨x, hx, hlength⟩ := Option.map_eq_some_iff.mp hqueue
    rcases hworlds _ _ _ _ _ _ hreached (.progress hprogress) hx with ⟨x', new, hx', -⟩ | ⟨-, hnew⟩
    · have hnone : (World.settleFor 1 World.hurried).workers.length = 0 := by decide +kernel
      rw [List.length_eq_zero_iff.mp hnone] at hx'
      cases hx'
    · exact ⟨x, hx, hlength, hnew⟩
  · let c := AsyncSession.opened (Store.initial.connect []).2
    have hsteps : (c.ask ⟨1, []⟩ World.errand).Steps ⟨1, []⟩ _ :=
      (((Relation.ReflTransGen.refl.tail (.io (.work (.enter (n := 0) rfl rfl)) rfl)).tail
        (.io (.work (.accept (n := 0) rfl rfl nofun)) rfl)).tail
        (.io (.work (.take rfl rfl)) rfl)).tail (.io (.work (.complete rfl)) rfl)
    obtain ⟨hio, -, htold, -⟩ := hsessions _ _ c _ _ .refl rfl hsteps
    have hrest := (sound_spawned.steps hio).isAtRest_iff.mpr (by decide)
    exact ⟨_, hsteps, hrest, by decide +kernel, htold hrest⟩

end TaskThread

end Coordination
