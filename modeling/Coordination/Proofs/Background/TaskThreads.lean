import Coordination.Background.Executor
import Mathlib.Algebra.GroupWithZero.Nat
import Mathlib.Data.List.Nodup
import Mathlib.Logic.Relation

/-!
# Threads for tasks

A thread that is brought tasks from any number of sides at once: a lock, behind which it says
whether it takes work, a channel, from which it takes the tasks in order, and the thread itself.
Callbacks are run by such threads, and so are the completions of a session's calls. Whoever brings a
task asks for the lock, offers the task and lets go of the lock; if the task is not taken, it runs
the task itself. Whoever shuts the thread down takes the sending end of the channel away behind the
same lock. The thread goes on until the channel is empty and its sending end is gone.

What a task does while it is run is not looked at, but it ends. It may bring tasks itself, or shut
the thread down; that is a call like any other.

## Main definitions

* `TaskThread`, `TaskThread.spawned`: such a thread with all who have to do with it
* `TaskThread.Work`, `TaskThread.Step`: the pieces of work, and what else may happen
* `TaskThread.trail`: what has happened to a task so far
* `TaskThread.Sound`: what any interleaving keeps in order

## Main results

* `TaskThread.Sound.step`: a step keeps everything in order
* `TaskThread.Sound.trail_taken_or_refused`: a task is taken, begun and ended by the thread, or else
  declined, begun and ended by who has brought it, and each of these once
* `TaskThread.Work.toDo_lt`, `TaskThread.Sound.trail_of_isAtRest`: work comes to rest, and then each
  task has been run
* `TaskThread.HasAsked.taker?_eq`: who runs a task is who the executor says
-/

namespace Coordination

/-! ## The parts -/

/-- Who runs a task. -/
inductive Runner where
  /-- The thread that it has been brought to. -/
  | thread
  /-- Who has brought it. -/
  | caller
  deriving DecidableEq

/-- The name of the delivery thread, if it is the thread that runs the task. -/
def Runner.taker? (t : DeliveryThread) : Runner → Option String
  | thread => some t.name
  | caller => none

namespace TaskThread

/-- How far a call has got that brings a task. -/
inductive Errand where
  /-- It waits for the lock. -/
  | arriving
  /-- It holds the lock. -/
  | inside
  /-- Its task has been taken, and it has returned. -/
  | relieved
  /-- Its task has not been taken. -/
  | rebuffed
  /-- It runs its task itself. -/
  | working
  /-- It has run its task itself, and has returned. -/
  | done
  deriving DecidableEq

/-- How far a call has got that shuts the thread down. -/
inductive Closing where
  /-- It waits for the lock. -/
  | arriving
  /-- It has taken the sending end of the channel away. -/
  | closed
  /-- It waits for the thread to end. -/
  | waiting
  /-- It has returned. -/
  | done
  deriving DecidableEq

/-- A call that shuts the thread down. -/
structure Closer where
  /-- Whether a task of the thread makes the call. -/
  own : Bool
  /-- How far it has got. -/
  stage : Closing
  deriving DecidableEq

/-- What the thread itself is doing. -/
inductive Labour where
  /-- It waits for a task. -/
  | idle
  /-- It runs a task. -/
  | busy (n : Nat)
  /-- It has ended. -/
  | ended
  deriving DecidableEq

/-- The task that the thread is running. -/
def Labour.task? : Labour → Option Nat
  | busy n => some n
  | _ => none

/-- What has become of the handle to wait for the thread with. -/
inductive Handle where
  /-- Nobody has used it. -/
  | kept
  /-- Somebody waits with it. -/
  | held
  /-- It has been used, or there never was one. -/
  | gone
  deriving DecidableEq

/-- Something that happens. -/
inductive Entry where
  /-- The thread takes a task. -/
  | accepted (n : Nat)
  /-- It does not take a task. -/
  | declined (n : Nat)
  /-- The sending end of the channel is taken away. -/
  | closed
  /-- A task is begun. -/
  | begun (r : Runner) (n : Nat)
  /-- A task has ended. -/
  | ended (r : Runner) (n : Nat)
  deriving DecidableEq

namespace Entry

/-- The task that it happens to. -/
def task? : Entry → Option Nat
  | accepted n | declined n | begun _ n | ended _ n => some n
  | closed => none

/-- Whether it may happen after all that: a task is taken just if the sending end is there. -/
def Follows (before : List Entry) : Entry → Prop
  | accepted _ => closed ∉ before
  | declined _ => closed ∈ before
  | _ => True

/-- What happens to a task that is taken. -/
def taken (n : Nat) : List Entry := [accepted n, begun .thread n, ended .thread n]

/-- What happens to a task that is not taken. -/
def refused (n : Nat) : List Entry := [declined n, begun .caller n, ended .caller n]

end Entry

end TaskThread

/-- A thread that is brought tasks, with all who have to do with it. Tasks are known by the numbers
of the calls that bring them. -/
structure TaskThread where
  /-- Its name, and whether the sending end of its channel is there. -/
  thread : DeliveryThread
  /-- The call that holds the lock. -/
  lock : Option Nat
  /-- The tasks in the channel, the next one first. -/
  channel : List Nat
  /-- What the thread is doing. -/
  labour : TaskThread.Labour
  /-- The handle to wait for it with. -/
  handle : TaskThread.Handle
  /-- The calls that bring tasks, by their numbers. -/
  calls : List TaskThread.Errand
  /-- The calls that shut it down. -/
  closers : List TaskThread.Closer
  /-- Whether it has been dropped: nobody can call it any more. -/
  isDropped : Bool
  /-- What has happened, in order. -/
  history : List TaskThread.Entry

namespace TaskThread

/-- A thread that nothing has happened to; `isJoinable` says whether its handle is kept. -/
def spawned (name : String) (isJoinable : Bool) : TaskThread :=
  { thread := .named name, lock := none, channel := [], labour := .idle,
    handle := if isJoinable then .kept else .gone, calls := [], closers := [], isDropped := false,
    history := [] }

/-- The thread after a call has come in that brings a task. -/
def brought (s : TaskThread) : TaskThread := { s with calls := s.calls ++ [.arriving] }

/-! ## The steps -/

/-- A piece of work that somebody can do without waiting. -/
inductive Work (s : TaskThread) : TaskThread → Prop
  /-- A call gets the lock. -/
  | enter {n : Nat} (hn : s.calls[n]? = some .arriving) (hlock : s.lock = none) :
      Work s { s with calls := s.calls.set n .inside, lock := some n }
  /-- The thread takes the task of the call that holds the lock. -/
  | accept {n : Nat} (hn : s.calls[n]? = some .inside)
      (htaker : (Executor.thread s.thread).taker?.isSome) (hlabour : s.labour ≠ .ended) :
      Work s
        { s with
          calls := s.calls.set n .relieved, lock := none, channel := s.channel ++ [n]
          history := s.history ++ [.accepted n] }
  /-- It does not take the task: the sending end of the channel is gone, or the receiving end. -/
  | decline {n : Nat} (hn : s.calls[n]? = some .inside)
      (htaker : (Executor.thread s.thread).taker? = none ∨ s.labour = .ended) :
      Work s
        { s with
          calls := s.calls.set n .rebuffed, lock := none, history := s.history ++ [.declined n] }
  /-- A call begins to run its task itself. -/
  | begin {n : Nat} (hn : s.calls[n]? = some .rebuffed) :
      Work s
        { s with calls := s.calls.set n .working, history := s.history ++ [.begun .caller n] }
  /-- It has run it. -/
  | finish {n : Nat} (hn : s.calls[n]? = some .working) :
      Work s { s with calls := s.calls.set n .done, history := s.history ++ [.ended .caller n] }
  /-- The thread takes the next task from the channel. -/
  | take {n : Nat} {rest : List Nat} (hchannel : s.channel = n :: rest)
      (hlabour : s.labour = .idle) :
      Work s
        { s with channel := rest, labour := .busy n, history := s.history ++ [.begun .thread n] }
  /-- It has run it. This is so also while a call of the task's own, to shut the thread down, waits
  for the handle that somebody else holds. That does not happen where there is a handle: only a
  session's thread has one, and it is shut down only when the session is dropped, by the last one
  who has it, so nobody else can hold the handle then. -/
  | complete {n : Nat} (hlabour : s.labour = .busy n) :
      Work s { s with labour := .idle, history := s.history ++ [.ended .thread n] }
  /-- The thread ends: nothing is left in the channel, and nothing can come. -/
  | leave (hlabour : s.labour = .idle) (hchannel : s.channel = [])
      (hopen : s.thread.isOpen = false) :
      Work s { s with labour := .ended }
  /-- The sending end of the channel is taken away. -/
  | close {i : Nat} {own : Bool} (hi : s.closers[i]? = some ⟨own, .arriving⟩)
      (hlock : s.lock = none) :
      Work s
        { s with
          thread := s.thread.shutdown, closers := s.closers.set i ⟨own, .closed⟩
          history := s.history ++ [.closed] }
  /-- Who shuts the thread down does not wait if there is no handle, or if it is the thread. -/
  | pass {i : Nat} {own : Bool} (hi : s.closers[i]? = some ⟨own, .closed⟩)
      (hhandle : s.handle = .gone ∨ s.handle = .kept ∧ own) :
      Work s { s with closers := s.closers.set i ⟨own, .done⟩, handle := .gone }
  /-- Otherwise it waits for the thread. -/
  | await {i : Nat} (hi : s.closers[i]? = some ⟨false, .closed⟩) (hhandle : s.handle = .kept) :
      Work s { s with closers := s.closers.set i ⟨false, .waiting⟩, handle := .held }
  /-- The thread that it has waited for has ended. -/
  | join {i : Nat} {own : Bool} (hi : s.closers[i]? = some ⟨own, .waiting⟩)
      (hlabour : s.labour = .ended) :
      Work s { s with closers := s.closers.set i ⟨own, .done⟩, handle := .gone }

/-- A step: a piece of work, or something from outside. -/
inductive Step (s : TaskThread) : TaskThread → Prop
  /-- Somebody works. -/
  | work {s' : TaskThread} (h : s.Work s') : Step s s'
  /-- A task is brought. -/
  | bring (hdropped : s.isDropped = false) : Step s s.brought
  /-- The thread is to be shut down, by a task of its own or by anybody else. -/
  | shutDown {own : Bool} (hdropped : s.isDropped = false)
      (hown : own → ∃ n, s.labour = .busy n) :
      Step s { s with closers := s.closers ++ [⟨own, .arriving⟩] }
  /-- The thread is dropped by the last one who has it, when nobody is calling it. -/
  | drop (hdropped : s.isDropped = false) (hcalls : ∀ c ∈ s.calls, c = .relieved ∨ c = .done)
      (hclosers : ∀ c ∈ s.closers, c.stage = .done) :
      Step s
        { s with
          thread := s.thread.shutdown, handle := .gone, isDropped := true
          history := s.history ++ [.closed] }

/-- Any number of steps. -/
abbrev Steps : TaskThread → TaskThread → Prop := Relation.ReflTransGen Step

/-- Whether nobody can go on. -/
def IsAtRest (s : TaskThread) : Prop := ∀ s', ¬s.Work s'

/-! ## What has happened -/

/-- The tasks that the thread has taken, in order. -/
def accepted (s : TaskThread) : List Nat :=
  s.history.filterMap fun
    | .accepted n => some n
    | _ => none

/-- The tasks that somebody has begun to run, in order. -/
def begun (r : Runner) (s : TaskThread) : List Nat :=
  s.history.filterMap fun
    | .begun r' n => if r' = r then some n else none
    | _ => none

/-- What has happened to a task. -/
def trail (s : TaskThread) (n : Nat) : List Entry := s.history.filter (·.task? = some n)

/-- What has to have happened to a task, as things are. -/
def due (s : TaskThread) (n : Nat) : List Entry :=
  match s.calls[n]? with
  | none | some .arriving | some .inside => []
  | some .rebuffed => [.declined n]
  | some .working => [.declined n, .begun .caller n]
  | some .done => Entry.refused n
  | some .relieved =>
    if n ∈ s.channel then [.accepted n]
    else if s.labour = .busy n then [.accepted n, .begun .thread n]
    else Entry.taken n

/-- The tasks that are in the hands of the thread, the one that it runs first. -/
def underway (s : TaskThread) : List Nat := s.labour.task?.toList ++ s.channel

/-- What the calls, the lock, the channel and the thread have to do with each other. -/
structure Tidy (s : TaskThread) : Prop where
  /-- The lock is held by the call that has got it. -/
  lock : ∀ n, s.calls[n]? = some .inside ↔ s.lock = some n
  /-- The thread ends when nothing is left and nothing can come. -/
  ended : s.labour = .ended → s.thread.isOpen = false ∧ s.channel = []
  /-- It has a task in its hands once, -/
  nodup : s.underway.Nodup
  /-- and whoever has brought it has returned. -/
  relieved : ∀ n ∈ s.underway, s.calls[n]? = some .relieved

/-- What the calls that shut the thread down have to do with it. -/
structure Attended (s : TaskThread) : Prop where
  /-- Somebody waits with the handle if it is held. -/
  waits : s.handle = .held → ∃ (i : Nat) (own : Bool), s.closers[i]? = some ⟨own, .waiting⟩
  /-- Who has had the lock has taken the sending end of the channel away. -/
  shut : ∀ c ∈ s.closers, c.stage ≠ .arriving → s.thread.isOpen = false

/-- What is recorded of all that. -/
structure Recorded (s : TaskThread) : Prop where
  /-- The sending end of the channel is there until it is taken away. -/
  isOpen_iff : s.thread.isOpen = true ↔ .closed ∉ s.history
  /-- To each task has happened what is due. -/
  trail : ∀ n, s.trail n = s.due n
  /-- The thread begins the tasks in the order in which it has taken them. -/
  order : s.accepted = s.begun .thread ++ s.channel
  /-- Everything has happened when it could. -/
  follows : ∀ before e after, s.history = before ++ e :: after → e.Follows before

/-- What any interleaving keeps in order. -/
structure Sound (s : TaskThread) : Prop where
  /-- At present, -/
  tidy : s.Tidy
  /-- for those who shut it down, -/
  attended : s.Attended
  /-- and in the record. -/
  recorded : s.Recorded

variable {s s' : TaskThread} {name : String} {isJoinable : Bool} {n : Nat} {e : Entry}
  {es : List Entry}

theorem sound_spawned : (spawned name isJoinable).Sound where
  tidy :=
    { lock := by simp [spawned]
      ended := nofun
      nodup := List.nodup_nil
      relieved := nofun }
  attended :=
    { waits := by cases isJoinable <;> nofun
      shut := nofun }
  recorded :=
    { isOpen_iff := by simp [spawned, DeliveryThread.named]
      trail := fun _ => rfl
      order := rfl
      follows := by simp [spawned] }

theorem underway_of_idle (h : s.labour = .idle) : s.underway = s.channel := by
  rw [underway, h]
  rfl

theorem underway_of_busy (h : s.labour = .busy n) : s.underway = n :: s.channel := by
  rw [underway, h]
  rfl

/-! ## What a step keeps -/

theorem taker?_isSome_iff {t : DeliveryThread} :
    (Executor.thread t).taker?.isSome ↔ t.isOpen = true := by
  cases h : t.isOpen <;> simp [Executor.taker?, h]

/-- A thread that does not take a task has been shut down: it does not end before. -/
theorem Tidy.isOpen_eq_false (hs : s.Tidy)
    (h : (Executor.thread s.thread).taker? = none ∨ s.labour = .ended) :
    s.thread.isOpen = false := by
  rcases h with htaker | hended
  · exact Bool.eq_false_iff.mpr fun hopen => by simp [Executor.taker?, hopen] at htaker
  · exact (hs.ended hended).1

/-- A call gets further whose task is not in the hands of the thread. -/
theorem Tidy.set {a : Errand} (hs : s.Tidy) (hn : s.calls[n]? = some a) (ha : a ≠ .relieved)
    (b : Errand) (lock : Option Nat) (history : List Entry)
    (hlock : ∀ m, (s.calls.set n b)[m]? = some .inside ↔ lock = some m) :
    Tidy { s with calls := s.calls.set n b, lock, history } := by
  refine ⟨hlock, hs.ended, hs.nodup, fun m hm => ?_⟩
  have hrelieved := hs.relieved m hm
  grind

theorem Tidy.work (hs : s.Tidy) (h : s.Work s') : s'.Tidy := by
  have hlock := hs.lock
  cases h with
  | enter hn _ => exact hs.set hn nofun _ _ _ (by grind)
  | decline hn _ => exact hs.set hn nofun _ _ _ (by grind)
  | begin hn => exact hs.set hn nofun _ _ _ (by grind)
  | finish hn => exact hs.set hn nofun _ _ _ (by grind)
  | @accept n hn _ hlabour =>
    -- The call has not returned yet, so its task is in nobody's hands.
    have hnew : n ∉ s.underway := fun h => by simp [hs.relieved n h] at hn
    have hunderway : s.labour.task?.toList ++ (s.channel ++ [n]) = s.underway ++ [n] :=
      (List.append_assoc ..).symm
    refine ⟨by grind, fun h => absurd h hlabour, ?_, fun m hm => ?_⟩
    · rw [underway, hunderway]
      exact hs.nodup.append (List.nodup_singleton n) (by simpa using hnew)
    · rw [underway, hunderway, List.mem_append] at hm
      have hrelieved := hs.relieved m
      grind
  | @take n rest hchannel hlabour =>
    have hunderway : s.underway = n :: rest := (underway_of_idle hlabour).trans hchannel
    have hnodup := hs.nodup
    have hrelieved := hs.relieved
    rw [hunderway] at hnodup hrelieved
    exact ⟨hlock, nofun, hnodup, hrelieved⟩
  | @complete n hlabour =>
    have hunderway := underway_of_busy hlabour
    have hnodup := hs.nodup
    rw [hunderway] at hnodup
    exact ⟨hlock, nofun, hnodup.of_cons, fun m hm =>
      hs.relieved m (hunderway ▸ List.mem_cons_of_mem n hm)⟩
  | leave hlabour hchannel hopen =>
    have hunderway := underway_of_idle hlabour
    exact ⟨hlock, fun _ => ⟨hopen, hchannel⟩, hunderway ▸ hs.nodup, fun m hm =>
      hs.relieved m (hunderway ▸ hm)⟩
  | close => exact ⟨hlock, fun h => ⟨rfl, (hs.ended h).2⟩, hs.nodup, hs.relieved⟩
  | pass | await | join => exact ⟨hlock, hs.ended, hs.nodup, hs.relieved⟩

theorem Tidy.step (hs : s.Tidy) (h : s.Step s') : s'.Tidy := by
  cases h with
  | work h => exact hs.work h
  | bring =>
    have hlock := hs.lock
    refine ⟨?_, hs.ended, hs.nodup, fun m hm => ?_⟩
    · simp only [brought]
      grind
    · have hrelieved := hs.relieved m hm
      simp only [brought]
      grind
  | shutDown => exact ⟨hs.lock, hs.ended, hs.nodup, hs.relieved⟩
  | drop => exact ⟨hs.lock, fun h => ⟨rfl, (hs.ended h).2⟩, hs.nodup, hs.relieved⟩

theorem Attended.work (hs : s.Attended) (h : s.Work s') : s'.Attended := by
  cases h with
  | close hi hlock =>
    refine ⟨fun hheld => ?_, fun _ _ _ => rfl⟩
    obtain ⟨i, own, hwaiting⟩ := hs.waits hheld
    exact ⟨i, own, by grind⟩
  | pass hi hhandle => exact ⟨nofun, fun _ _ _ => hs.shut _ (List.mem_of_getElem? hi) nofun⟩
  | @await i hi hhandle =>
    have hshut := hs.shut _ (List.mem_of_getElem? hi) nofun
    exact ⟨fun _ => ⟨i, false, by grind⟩, fun _ _ _ => hshut⟩
  | join hi hlabour => exact ⟨nofun, fun _ _ _ => hs.shut _ (List.mem_of_getElem? hi) nofun⟩
  | _ => exact ⟨hs.waits, hs.shut⟩

theorem Attended.step (hs : s.Attended) (h : s.Step s') : s'.Attended := by
  cases h with
  | work h => exact hs.work h
  | bring => exact ⟨hs.waits, hs.shut⟩
  | shutDown =>
    refine ⟨fun hheld => ?_, fun c hc hstage => ?_⟩
    · obtain ⟨i, own, hi⟩ := hs.waits hheld
      exact ⟨i, own, by grind⟩
    · rcases List.mem_append.mp hc with hc | hc
      · exact hs.shut c hc hstage
      · rw [List.mem_singleton.mp hc] at hstage
        exact absurd rfl hstage
  | drop => exact ⟨nofun, fun _ _ _ => rfl⟩

/-! ## What a step records -/

/-- What happens next has happened when it could. -/
theorem follows_concat (hes : ∀ before e after, es = before ++ e :: after → e.Follows before)
    (he : e.Follows es) :
    ∀ before e' after, es ++ [e] = before ++ e' :: after → e'.Follows before := by
  intro before e' after h
  rcases List.eq_nil_or_concat after with rfl | ⟨after, e'', rfl⟩
  · obtain ⟨rfl, rfl⟩ := List.append_inj' h rfl |>.imp_right List.singleton_inj.mp
    exact he
  · rw [List.concat_eq_append, ← List.cons_append, ← List.append_assoc] at h
    exact hes before e' after (List.append_inj' h rfl).1

/-- What one step makes of the record: something happens to one task, or the sending end of the
channel is taken away, or nothing happens to anybody. -/
inductive Touches (s s' : TaskThread) : Prop
  /-- Something happens to a task. -/
  | task {n : Nat} {e : Entry} (htask : e.task? = some n)
      (hhistory : s'.history = s.history ++ [e]) (hdue : s'.due n = s.due n ++ [e])
      (hothers : ∀ m, m ≠ n → s'.due m = s.due m)
  /-- Nothing happens to any task. -/
  | none {es : List Entry} (hes : es = [] ∨ es = [.closed])
      (hhistory : s'.history = s.history ++ es) (hdue : ∀ m, s'.due m = s.due m)

/-- A piece of work happens to at most one task, which is then due the next thing. -/
theorem Tidy.work_touches (hs : s.Tidy) (h : s.Work s') : s.Touches s' := by
  cases h with
  | enter hn hlock => exact .none (.inl rfl) (by simp) (by grind [due])
  | @accept n hn htaker hlabour =>
    have hnew : n ∉ s.underway := fun h => by simp [hs.relieved n h] at hn
    exact .task (n := n) rfl rfl (by grind [due]) (by grind [due])
  | @decline n hn htaker =>
    exact .task (n := n) rfl rfl (by grind [due]) (by grind [due])
  | @begin n hn =>
    exact .task (n := n) rfl rfl (by grind [due]) (by grind [due])
  | @finish n hn =>
    exact .task (n := n) rfl rfl (by grind [due, Entry.refused]) (by grind [due])
  | @take n rest hchannel hlabour =>
    have hunderway : s.underway = n :: rest := (underway_of_idle hlabour).trans hchannel
    have hn := hs.relieved n (by simp [hunderway])
    have hnodup := hs.nodup
    rw [hunderway] at hnodup
    exact .task (n := n) rfl rfl (by grind [due]) (by grind [due])
  | @complete n hlabour =>
    have hunderway := underway_of_busy hlabour
    have hn := hs.relieved n (by simp [hunderway])
    have hnodup := hs.nodup
    rw [hunderway] at hnodup
    exact .task (n := n) rfl rfl (by grind [due, Entry.taken]) (by grind [due])
  | leave hlabour => exact .none (.inl rfl) (by simp) (by grind [due])
  | close => exact .none (.inr rfl) rfl fun _ => rfl
  | pass | await | join => exact .none (.inl rfl) (by simp) fun _ => rfl

theorem Tidy.touches (hs : s.Tidy) (h : s.Step s') : s.Touches s' := by
  cases h with
  | work h => exact hs.work_touches h
  | bring => exact .none (.inl rfl) (by simp [brought]) (by simp only [due, brought]; grind)
  | shutDown => exact .none (.inl rfl) (by simp) fun _ => rfl
  | drop => exact .none (.inr rfl) rfl fun _ => rfl

/-- To each task has happened what is due, step by step. -/
theorem Touches.trail_eq (h : s.Touches s') (hs : ∀ n, s.trail n = s.due n) (m : Nat) :
    s'.trail m = s'.due m := by
  cases h with
  | @task n e htask hhistory hdue hothers =>
    rw [trail, hhistory, List.filter_append, ← trail, hs]
    by_cases hm : m = n
    · subst hm
      simp [htask, hdue]
    · have hn : ¬n = m := fun h => hm h.symm
      simp [htask, hn, hothers m hm]
  | none hes hhistory hdue =>
    rw [trail, hhistory, List.filter_append, ← trail, hs, hdue]
    rcases hes with rfl | rfl <;> simp [Entry.task?]

/-- Something is recorded. -/
theorem Recorded.note (hs : s.Recorded) (htouches : s.Touches s')
    (hhistory : s'.history = s.history ++ [e]) (hfollows : e.Follows s.history)
    (hopen : s'.thread.isOpen = true ↔ s.thread.isOpen = true ∧ e ≠ .closed)
    (horder : s'.accepted = s'.begun .thread ++ s'.channel) : s'.Recorded where
  isOpen_iff := by
    rw [hopen, hs.isOpen_iff, hhistory, List.mem_append, List.mem_singleton, not_or, ne_comm]
  trail := htouches.trail_eq hs.trail
  order := horder
  follows := hhistory ▸ follows_concat hs.follows hfollows

/-- Nothing is recorded. -/
theorem Recorded.silent (hs : s.Recorded) (htouches : s.Touches s')
    (hhistory : s'.history = s.history) (hthread : s'.thread = s.thread)
    (hchannel : s'.channel = s.channel) : s'.Recorded where
  isOpen_iff := by rw [hthread, hhistory, hs.isOpen_iff]
  trail := htouches.trail_eq hs.trail
  order := by
    rw [accepted, begun, hhistory, hchannel]
    exact hs.order
  follows := hhistory ▸ hs.follows

theorem Sound.recorded_work (hs : s.Sound) (h : s.Work s') : s'.Recorded := by
  have htouches := hs.tidy.touches (.work h)
  have horder := hs.recorded.order
  simp only [accepted, begun] at horder
  cases h with
  | enter | leave | pass | await | join => exact hs.recorded.silent htouches rfl rfl rfl
  | accept hn htaker hlabour =>
    have hopen := taker?_isSome_iff.mp htaker
    exact hs.recorded.note htouches rfl (hs.recorded.isOpen_iff.mp hopen) (by simp)
      (by simp [accepted, begun, horder])
  | decline hn htaker =>
    have hclosed : .closed ∈ s.history := by
      by_contra h
      have hopen := hs.recorded.isOpen_iff.mpr h
      rw [hs.tidy.isOpen_eq_false htaker] at hopen
      cases hopen
    exact hs.recorded.note htouches rfl hclosed (by simp) (by simp [accepted, begun, horder])
  | begin | finish | complete =>
    exact hs.recorded.note htouches rfl trivial (by simp) (by simp [accepted, begun, horder])
  | take hchannel hlabour =>
    exact hs.recorded.note htouches rfl trivial (by simp)
      (by simp [accepted, begun, horder, hchannel])
  | close hi hlock =>
    exact hs.recorded.note htouches rfl trivial (by simp [DeliveryThread.shutdown])
      (by simp [accepted, begun, horder])

/-- **A step keeps everything in order.** -/
theorem Sound.step (hs : s.Sound) (h : s.Step s') : s'.Sound := by
  refine ⟨hs.tidy.step h, hs.attended.step h, ?_⟩
  have htouches := hs.tidy.touches h
  cases h with
  | work h => exact hs.recorded_work h
  | bring | shutDown => exact hs.recorded.silent htouches rfl rfl rfl
  | drop =>
    have horder := hs.recorded.order
    simp only [accepted, begun] at horder
    exact hs.recorded.note htouches rfl trivial (by simp [DeliveryThread.shutdown])
      (by simp [accepted, begun, horder])

theorem Sound.steps (hs : s.Sound) (h : s.Steps s') : s'.Sound := by
  induction h with
  | refl => exact hs
  | tail _ h ih => exact ih.step h

/-! ## The way of a task -/

/-- **Each task is taken, begun and ended by the thread, or else declined, begun and ended by who
has brought it**, so far as it has got, and each of these once. -/
theorem Sound.trail_taken_or_refused (hs : s.Sound) (n : Nat) :
    s.trail n <+: Entry.taken n ∨ s.trail n <+: Entry.refused n := by
  rw [hs.recorded.trail, due]
  split
  · exact .inl ⟨_, rfl⟩
  · exact .inl ⟨_, rfl⟩
  · exact .inl ⟨_, rfl⟩
  · exact .inr ⟨_, rfl⟩
  · exact .inr ⟨_, rfl⟩
  · exact .inr ⟨[], rfl⟩
  · split_ifs
    · exact .inl ⟨_, rfl⟩
    · exact .inl ⟨_, rfl⟩
    · exact .inl ⟨[], rfl⟩

theorem Sound.trail_eq_nil (hs : s.Sound) (hn : s.calls.length ≤ n) : s.trail n = [] := by
  rw [hs.recorded.trail, due, List.getElem?_eq_none hn]

/-- What is left of a task whose call has returned is in the hands of the thread. -/
theorem Sound.trail_of_over {c : Errand} (hs : s.Sound) (hn : s.calls[n]? = some c)
    (hc : c = .relieved ∨ c = .done) (hunderway : n ∉ s.underway) :
    s.trail n = Entry.taken n ∨ s.trail n = Entry.refused n := by
  rw [hs.recorded.trail, due, hn]
  rcases hc with rfl | rfl
  · simp only [underway, List.mem_append, not_or, Option.mem_toList] at hunderway
    refine .inl ?_
    rw [if_neg hunderway.2, if_neg]
    intro hlabour
    simp [hlabour, Labour.task?] at hunderway
  · exact .inr rfl

theorem mem_trail : e ∈ s.trail n ↔ e ∈ s.history ∧ e.task? = some n := by simp [trail]

theorem mem_accepted : n ∈ s.accepted ↔ .accepted n ∈ s.history := by
  simp only [accepted, List.mem_filterMap]
  constructor
  · rintro ⟨e, he, hn⟩
    split at hn
    · cases hn
      exact he
    · cases hn
  · exact fun h => ⟨_, h, rfl⟩

/-- When the thread has ended, it has run all that it has taken. -/
theorem Sound.trail_of_ended (hs : s.Sound) (hended : s.labour = .ended) (hn : n ∈ s.accepted) :
    s.trail n = Entry.taken n := by
  have htrail : .accepted n ∈ s.trail n := mem_trail.mpr ⟨mem_accepted.mp hn, rfl⟩
  rw [hs.recorded.trail, due] at htrail ⊢
  have hchannel := (hs.tidy.ended hended).2
  split at htrail <;> simp_all [Entry.refused]

/-! ## Rest -/

/-- At rest nobody holds the lock: who holds it can go on. -/
theorem IsAtRest.lock_eq_none (hrest : s.IsAtRest) (hs : s.Sound) : s.lock = none := by
  refine Option.eq_none_iff_forall_ne_some.mpr fun n hn => ?_
  have hinside : s.calls[n]? = some .inside := (hs.tidy.lock n).mpr hn
  cases htaker : (Executor.thread s.thread).taker? with
  | none => exact hrest _ (.decline hinside (.inl htaker))
  | some taker =>
    by_cases hended : s.labour = .ended
    · exact hrest _ (.decline hinside (.inr hended))
    · exact hrest _ (.accept hinside (by rw [htaker]; rfl) hended)

/-- At rest all calls that have brought tasks have returned. -/
theorem IsAtRest.calls (hrest : s.IsAtRest) (hs : s.Sound) :
    ∀ c ∈ s.calls, c = .relieved ∨ c = .done := by
  intro c hc
  obtain ⟨n, hn⟩ := List.mem_iff_getElem?.mp hc
  have hlock := hrest.lock_eq_none hs
  cases c with
  | arriving => exact absurd (.enter hn hlock) (hrest _)
  | inside =>
    rw [(hs.tidy.lock n).mp hn] at hlock
    cases hlock
  | relieved => exact .inl rfl
  | rebuffed => exact absurd (.begin hn) (hrest _)
  | working => exact absurd (.finish hn) (hrest _)
  | done => exact .inr rfl

/-- At rest the channel is empty. -/
theorem IsAtRest.channel_eq_nil (hrest : s.IsAtRest) (hs : s.Sound) : s.channel = [] := by
  cases hchannel : s.channel with
  | nil => rfl
  | cons n rest =>
    cases hlabour : s.labour with
    | idle => exact absurd (.take hchannel hlabour) (hrest _)
    | busy m => exact absurd (.complete hlabour) (hrest _)
    | ended => rw [← hchannel, (hs.tidy.ended hlabour).2]

/-- At rest the thread has ended, or waits for tasks that may still come. -/
theorem IsAtRest.labour (hrest : s.IsAtRest) (hs : s.Sound) :
    s.labour = .ended ∨ s.labour = .idle ∧ s.thread.isOpen = true := by
  cases hlabour : s.labour with
  | idle =>
    refine .inr ⟨rfl, ?_⟩
    cases hopen : s.thread.isOpen with
    | true => rfl
    | false => exact absurd (.leave hlabour (hrest.channel_eq_nil hs) hopen) (hrest _)
  | busy n => exact absurd (.complete hlabour) (hrest _)
  | ended => exact .inl rfl

/-- At rest nobody waits for the thread: who waits is served when it has ended, and it ends when it
is shut down. -/
theorem IsAtRest.not_waiting {i : Nat} {own : Bool} (hrest : s.IsAtRest) (hs : s.Sound) :
    s.closers[i]? ≠ some ⟨own, .waiting⟩ := by
  intro hi
  have hshut : s.thread.isOpen = false :=
    hs.attended.shut _ (List.mem_of_getElem? hi) nofun
  rcases hrest.labour hs with hended | ⟨-, hopen⟩
  · exact hrest _ (.join hi hended)
  · rw [hshut] at hopen
    cases hopen

/-- At rest all calls that have shut the thread down have returned. -/
theorem IsAtRest.closers (hrest : s.IsAtRest) (hs : s.Sound) :
    ∀ c ∈ s.closers, c.stage = .done := by
  intro ⟨own, stage⟩ hc
  obtain ⟨i, hi⟩ := List.mem_iff_getElem?.mp hc
  cases stage with
  | arriving => exact absurd (.close hi (hrest.lock_eq_none hs)) (hrest _)
  | closed =>
    cases hhandle : s.handle with
    | gone => exact absurd (.pass hi (.inl hhandle)) (hrest _)
    | held =>
      obtain ⟨i', own', hi'⟩ := hs.attended.waits hhandle
      exact absurd hi' (hrest.not_waiting hs)
    | kept =>
      cases own with
      | true => exact absurd (.pass hi (.inr ⟨hhandle, rfl⟩)) (hrest _)
      | false => exact absurd (.await hi hhandle) (hrest _)
  | waiting => exact absurd hi (hrest.not_waiting hs)
  | done => rfl

theorem Sound.isAtRest_iff (hs : s.Sound) : s.IsAtRest ↔
    (∀ c ∈ s.calls, c = .relieved ∨ c = .done) ∧ s.channel = [] ∧
      (s.labour = .ended ∨ s.labour = .idle ∧ s.thread.isOpen = true) ∧
      ∀ c ∈ s.closers, c.stage = .done := by
  constructor
  · exact fun hrest =>
      ⟨hrest.calls hs, hrest.channel_eq_nil hs, hrest.labour hs, hrest.closers hs⟩
  · rintro ⟨hcalls, hchannel, hlabour, hclosers⟩ s' h
    have hcall {n : Nat} {c : Errand} (hn : s.calls[n]? = some c) : c = .relieved ∨ c = .done :=
      hcalls c (List.mem_of_getElem? hn)
    have hcloser {i : Nat} {c : Closer} (hi : s.closers[i]? = some c) : c.stage = .done :=
      hclosers c (List.mem_of_getElem? hi)
    cases h with
    | enter hn | accept hn | decline hn | begin hn | finish hn =>
      rcases hcall hn with h | h <;> cases h
    | take h => rw [hchannel] at h; cases h
    | complete h => simp [h] at hlabour
    | leave hidle _ hopen => simp [hidle, hopen] at hlabour
    | close hi | pass hi | await hi | join hi => cases hcloser hi

/-- **At rest each task that was brought has been run**, by the thread if it was taken, or else by
who has brought it. -/
theorem Sound.trail_of_isAtRest (hs : s.Sound) (hrest : s.IsAtRest) (hn : n < s.calls.length) :
    s.trail n = Entry.taken n ∨ s.trail n = Entry.refused n := by
  obtain ⟨hcalls, hchannel, hlabour, -⟩ := hs.isAtRest_iff.mp hrest
  have hunderway : s.underway = [] := by
    rcases hlabour with hlabour | ⟨hlabour, -⟩ <;> simp [underway, hchannel, hlabour, Labour.task?]
  exact hs.trail_of_over (List.getElem?_eq_getElem hn) (hcalls _ (List.getElem_mem hn))
    (by simp [hunderway])

/-! ## Getting there -/

/-- How many pieces of work a call takes at most, with what the thread does for it. -/
def Errand.toDo : Errand → Nat
  | arriving => 4
  | inside => 3
  | rebuffed => 2
  | working => 1
  | relieved | done => 0

/-- The same for a call that shuts the thread down. -/
def Closing.toDo : Closing → Nat
  | arriving => 3
  | closed => 2
  | waiting => 1
  | done => 0

/-- The same for the thread itself, without what is in its channel. -/
def Labour.toDo : Labour → Nat
  | busy _ => 2
  | idle => 1
  | ended => 0

/-- How many pieces of work there are at most. -/
def toDo (s : TaskThread) : Nat :=
  (s.calls.map Errand.toDo).sum + (s.closers.map (·.stage.toDo)).sum + 2 * s.channel.length
    + s.labour.toDo

theorem sum_map_set {α : Type} {as : List α} {a : α} {f : α → Nat} (h : as[n]? = some a)
    (b : α) : ((as.set n b).map f).sum + f a = (as.map f).sum + f b := by
  induction as generalizing n with
  | nil => cases h
  | cons c as ih =>
    cases n with
    | zero =>
      cases h
      simp only [List.set_cons_zero, List.map_cons, List.sum_cons]
      omega
    | succ n =>
      have := ih h
      simp only [List.set_cons_succ, List.map_cons, List.sum_cons]
      omega

theorem toDo_lt_of_call {a b : Errand} (hn : s.calls[n]? = some a) (hb : b.toDo < a.toDo)
    (lock : Option Nat) (history : List Entry) :
    toDo { s with calls := s.calls.set n b, lock, history } < s.toDo := by
  have := sum_map_set (f := Errand.toDo) hn b
  simp only [toDo]
  omega

theorem toDo_lt_of_closer {i : Nat} {a b : Closer} (hi : s.closers[i]? = some a)
    (hb : b.stage.toDo < a.stage.toDo) (thread : DeliveryThread) (handle : Handle)
    (history : List Entry) :
    toDo { s with thread, closers := s.closers.set i b, handle, history } < s.toDo := by
  have := sum_map_set (f := fun c : Closer => c.stage.toDo) hi b
  simp only [toDo]
  omega

/-- **Each piece of work brings the end closer.** -/
theorem Work.toDo_lt (h : s.Work s') : s'.toDo < s.toDo := by
  cases h with
  | enter hn | decline hn | begin hn | finish hn => exact toDo_lt_of_call hn (by decide) ..
  | accept hn =>
    have := sum_map_set (f := Errand.toDo) hn .relieved
    simp only [toDo, Errand.toDo, List.length_append, List.length_singleton] at *
    omega
  | take hchannel hlabour =>
    simp only [toDo, hchannel, hlabour, Labour.toDo, List.length_cons]
    omega
  | complete hlabour | leave hlabour =>
    simp only [toDo, hlabour, Labour.toDo]
    omega
  | close hi | pass hi | await hi | join hi =>
    exact toDo_lt_of_closer hi (by simp [Closing.toDo]) ..

/-- **Work comes to rest**, whoever does the next piece. -/
theorem exists_isAtRest (s : TaskThread) :
    ∃ s', Relation.ReflTransGen Work s s' ∧ s'.IsAtRest := by
  induction h : s.toDo using Nat.strongRecOn generalizing s with
  | _ k ih =>
    by_cases hrest : s.IsAtRest
    · exact ⟨s, .refl, hrest⟩
    · obtain ⟨s', hwork⟩ : ∃ s', s.Work s' := by simpa [IsAtRest] using hrest
      obtain ⟨s'', hworks, hrest⟩ := ih _ (h ▸ hwork.toDo_lt) s' rfl
      exact ⟨s'', .head hwork hworks, hrest⟩

/-! ## Who runs a task -/

section Asking

variable {later later' : TaskThread} {r : Runner}

/-- Where a call has got to that had the lock in `s`. While it has the lock, the thread stays as it
is; then its task has been taken just if the thread took tasks. -/
def HasAsked (s : TaskThread) (n : Nat) (later : TaskThread) : Prop :=
  later.thread = s.thread ∧ later.calls[n]? = some .inside ∨
    s.thread.isOpen = true ∧ later.calls[n]? = some .relieved ∨
    s.thread.isOpen = false ∧
      (later.calls[n]? = some .rebuffed ∨ later.calls[n]? = some .working ∨
        later.calls[n]? = some .done)

theorem HasAsked.step (h : HasAsked s n later) (hs : later.Sound) (h' : later.Step later') :
    HasAsked s n later' := by
  have hlock := hs.tidy.lock
  unfold HasAsked at *
  cases h' with
  | work h' =>
    cases h' with
    | accept hn htaker hlabour =>
      have hopen := taker?_isSome_iff.mp htaker
      grind
    | decline hn htaker =>
      have hopen := hs.tidy.isOpen_eq_false htaker
      grind
    | _ => grind
  | bring => grind [brought]
  | shutDown => grind
  | drop hdropped hcalls hclosers =>
    have hinside : later.calls[n]? ≠ some .inside := fun hn => by
      rcases hcalls _ (List.mem_of_getElem? hn) with h | h <;> cases h
    grind

theorem HasAsked.steps (hs : s.Sound) (hn : s.calls[n]? = some .inside) (h : s.Steps later) :
    HasAsked s n later := by
  induction h with
  | refl => exact .inl ⟨rfl, hn⟩
  | tail h h' ih => exact ih.step (hs.steps h) h'

/-- The thread takes a task, so that it is the thread that runs it, just if the executor says so. -/
theorem HasAsked.taker?_eq (h : HasAsked s n later) (hs : later.Sound)
    (hr : .begun r n ∈ later.history) : (Executor.thread s.thread).taker? = r.taker? s.thread := by
  have htrail : .begun r n ∈ later.trail n := mem_trail.mpr ⟨hr, rfl⟩
  rw [hs.recorded.trail, due] at htrail
  rcases h with ⟨-, hn⟩ | ⟨hopen, hn⟩ | ⟨hopen, hn⟩
  · simp [hn] at htrail
  · simp only [hn] at htrail
    obtain rfl : r = .thread := by split_ifs at htrail <;> simp_all [Entry.taken]
    simp [Runner.taker?, Executor.taker?, hopen]
  · obtain rfl : r = .caller := by
      rcases hn with hn | hn | hn <;> simp_all [Entry.refused]
    simp [Runner.taker?, Executor.taker?, hopen]

end Asking

end TaskThread

end Coordination
