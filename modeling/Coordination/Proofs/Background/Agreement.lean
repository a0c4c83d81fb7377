import Coordination.Proofs.Background.Mirroring
import Coordination.Simulation.Call

/-!
# The foreground and the background agree

A call may be run at once or in the background. Run in a quiet world, it is rejected in both ways or
in neither, and if it is not, both ways leave the same store and come to the same, be it as an
answer or as an event — unless the policy asks for waits that lead to no instant. The foreground
waits however long it is told to, or notes that it would have; in the background such a wait is the
end of the processor, whose calls get no event, and which takes no further calls. This holds
whatever time the foreground takes, and however the dice fall in both ways.

## Main definitions

* `World.awaited`: what a background call comes to
* `World.announced`: what a foreground call would have come to in the background
* `World.IsReady`: a client in a quiet world that is connected and need not ask for its root
* `World.Suits`: the calls that the processor lasts for

## Main results

* `World.IsReady.awaited_eq_announced_iff`: the two ways of running a call agree exactly on these
-/

namespace Coordination

/-! ## Comparing calls -/

namespace Mode

/-- The event for what an operation comes to. -/
def executed (mode : Mode) (o : Operation) (result : Except Failure Answer) : Event :=
  { (Event.bare o.request.type.eventType (some o.path)).ofExecuted result with
    context := mode.context }

/-- The event for what a transaction comes to. -/
def submitted (mode : Mode) (result : Except Failure (List Outcome)) : Event :=
  { (Event.bare .transaction none).ofSubmitted result with context := mode.context }

end Mode

namespace World

/-- What a background call comes to, and the store then: why it was rejected, or the events that are
delivered for it. -/
def awaited {α : Type} : Except Failure (Submission α) × World → Except Failure (List Event) × Store
  | (.error f, w) => (.error f, w.store)
  | (.ok (.queued ticket), w) =>
    (.ok ((w.await ticket).deliveriesOf ticket), (w.await ticket).store)
  | (.ok (.completed _), w) => (.ok [], w.store)

/-- What a foreground call would have come to in the background, and the store then: why it was
rejected, or the event for its outcome. -/
def announced {α : Type} (event : Except Failure α → Event) :
    Except Failure (Submission α) × World → Except Failure (List Event) × Store
  | (.error f, w) => (if f.isRejection then .error f else .ok [event (.error f)], w.store)
  | (.ok (.completed a), w) => (.ok [event (.ok a)], w.store)
  | (.ok (.queued _), w) => (.ok [], w.store)

/-- How long a client has waited in the foreground, in order. -/
def sleepsOf (w : World) (k : Nat) : List Duration :=
  ((w.members[k]?).map (·.client.sleeps)).getD []

/-- How long a client has waited in the foreground between two worlds. -/
def waits (w w' : World) (k : Nat) : List Duration := (w'.sleepsOf k).drop (w.sleepsOf k).length

/-- The waits that a client's policy asks for in the background if the next call is to be sent again
so many times. -/
def delays (w : World) (m : Member) (n : Nat) : List Duration :=
  m.client.config.policy.waits (w.die w.calls.length) 0 n

/-- Whether a client's processor lasts for a call that has been run in the foreground: the call is
rejected, or the processor is running and lasts through as many waits as there were. -/
def Suits {α : Type} (w : World) (k : Nat) (m : Member)
    (foreground : Except Failure (Submission α) × World) : Prop :=
  (∃ f, foreground.1 = .error f ∧ f.isRejection) ∨
    m.processor.phase = .running ∧
      Processor.Lasts w.clock (w.delays m (w.waits foreground.2 k).length)

/-- Whether a client in a quiet world is connected, need not ask for its root, sees the store's
answers as they are and has a policy that counts. While it is open its processor takes calls, unless
it has ended without clearing up. -/
structure IsReady (w : World) (k : Nat) (m : Member) : Prop where
  quiet : w.IsQuiet
  member : w.members[k]? = some m
  root : m.client.IsRooted
  session : w.store.isConnected m.session
  tampering : m.tampering = .none
  policy : m.client.config.policy.isCounted
  processor : m.client.closed = false →
    m.processor.gateOpen ∧ (m.processor.phase = .running ∨ m.processor.phase = .dead)

/-- A call that a client runs at once. -/
def atOnce {β : Type} (w : World) (k : Nat) (m : Member) (work : Work (Except Failure β)) :
    Except Failure (Submission β) × World :=
  ((w.foreground k m work).1.map .completed, (w.foreground k m work).2)

/-- A call that a client leaves to its processor, unless it cannot be prepared. -/
def later (β : Type) (w : World) (k : Nat) (m : Member) (payload : Except Failure Payload)
    (mode : Mode) : Except Failure (Submission β) × World :=
  ((w.enqueuePrepared k m payload mode).1.map .queued, (w.enqueuePrepared k m payload mode).2)

/-- Whether some work of a client is a loop, and what it comes to is made of what the loop comes
to. -/
def Loops {α β : Type} (m : Member) (work : Work (Except Failure β))
    (attempt : Nat → Store × Tampering → Except StoreError α × Store × Tampering)
    (conclude : Except Failure α → Except Failure β) : Prop :=
  ∀ s, work (Tampering.link m.session) m.client s =
    (conclude (m.client.config.withRetries (Tampering.link m.session) attempt s).1,
      m.client.slept (m.client.config.withRetries (Tampering.link m.session) attempt s).2.1,
      (m.client.config.withRetries (Tampering.link m.session) attempt s).2.2)

variable {α β : Type} {w : World} {k : Nat} {m : Member} {mode : Mode} {payload : Payload}
  {event : Except Failure β → Event} {work : Work (Except Failure β)} {f : Failure}

/-! ## The foreground -/

theorem foreground_of_eq {a : α} {work : Work α} {client : Client} {st : Store} {t : Tampering}
    (hm : w.members[k]? = some m)
    (h : work (Tampering.link m.session) m.client (w.store, m.tampering) = (a, client, st, t)) :
    (w.foreground k m work).1 = a ∧ (w.foreground k m work).2.store = st ∧
      w.waits (w.foreground k m work).2 k = client.sleeps.drop m.client.sleeps.length := by
  refine ⟨by simp [foreground, h], by simp [foreground, h, updateMember], ?_⟩
  simp [waits, sleepsOf, foreground, h, updateMember, hm]

/-- A call that is rejected in both ways is rejected for the same reason, and leaves the store as it
was. -/
theorem awaited_eq_announced_iff_of_rejected (hm : w.members[k]? = some m) (hf : f.isRejection)
    (hwork : ∀ s, work (Tampering.link m.session) m.client s = (.error f, m.client, s)) :
    awaited ((.error f, w) : Except Failure (Submission β) × World) =
        announced event (w.atOnce k m work) ↔
      w.Suits k m (w.atOnce k m work) := by
  obtain ⟨hresult, hstore, -⟩ := foreground_of_eq hm (hwork (w.store, m.tampering))
  rw [atOnce, hresult]
  refine iff_of_true ?_ (.inl ⟨f, rfl, hf⟩)
  simp only [awaited, announced, Except.map, hf, if_true, hstore]

/-- The outcome of a call that is not rejected is told as an event. -/
theorem announced_atOnce
    (h : ∀ f, (w.foreground k m work).1 = .error f → f.isRejection = false) :
    announced event (w.atOnce k m work) =
      (.ok [event (w.foreground k m work).1], (w.foreground k m work).2.store) := by
  unfold atOnce
  cases hresult : (w.foreground k m work).1 with
  | error f => simp [announced, Except.map, h f hresult]
  | ok b => rfl

/-- For a call that is not rejected the processor has to last. -/
theorem suits_atOnce_iff
    (h : ∀ f, (w.foreground k m work).1 = .error f → f.isRejection = false) :
    w.Suits k m (w.atOnce k m work) ↔
      m.processor.phase = .running ∧
        Processor.Lasts w.clock (w.delays m (w.waits (w.foreground k m work).2 k).length) := by
  have hrejected : ¬∃ f, (w.atOnce k m work).1 = .error f ∧ f.isRejection := by
    rintro ⟨f, hf, hrejection⟩
    unfold atOnce at hf
    cases hresult : (w.foreground k m work).1 with
    | error f' =>
      obtain rfl : f' = f := by simpa [hresult, Except.map] using hf
      rw [h f' hresult] at hrejection
      cases hrejection
    | ok b => simp [hresult, Except.map] at hf
  exact or_iff_right hrejected

/-! ## The background -/

/-- A closed client leaves nothing to its processor. -/
theorem later_of_closed (hclosed : m.client.closed) (payload : Except Failure Payload) :
    w.later β k m payload mode = (.error .shuttingDown, w) := by
  simp [later, enqueuePrepared, Client.checkOpen, hclosed, Except.map]

/-- Nor does one that is open, if the call cannot be prepared. -/
theorem later_of_error (hopen : m.client.closed = false) (f : Failure) :
    w.later β k m (.error f) mode = (.error f, w) := by
  simp [later, enqueuePrepared, Client.checkOpen, hopen, Except.map]

theorem later_of_ok (hopen : m.client.closed = false) (payload : Payload) :
    w.later β k m (.ok payload) mode =
      ((w.enqueue k m payload mode).1.map .queued, (w.enqueue k m payload mode).2) := by
  simp only [later, enqueuePrepared, Client.checkOpen, hopen, Bool.false_eq_true, if_false]

namespace IsReady

/-- A call that is accepted is the only message to the processor of an otherwise quiet world. -/
theorem exists_enqueue (h : w.IsReady k m) (hgate : m.processor.gateOpen)
    (hphase : m.processor.phase = .running) (payload : Payload) (mode : Mode) :
    ∃ w' : World, w'.IsQuiet ∧ w'.members[k]? = some m ∧ w'.die = w.die ∧
      w.calls.length < w'.calls.length ∧ w'.isDelivered w.calls.length = false ∧
      w'.deliveriesOf w.calls.length = [] ∧
      w.enqueue k m payload mode = (.ok w.calls.length, w'.staged k w.clock w.store
        ((Processor.vacant m.processor.nextId).push
          (.submit (.fresh w.calls.length payload mode none))) []) := by
  have henqueue : m.processor.enqueue? (.fresh w.calls.length payload mode none) =
      some ((Processor.vacant m.processor.nextId).push
        (.submit (.fresh w.calls.length payload mode none))) := by
    rw [Processor.eq_vacant (h.quiet.processors k m h.member) hgate hphase]
    rfl
  refine ⟨{ w with calls := w.calls ++ [⟨mode.errorListener.isSome, [], [], []⟩] },
    ⟨h.quiet.processors, h.quiet.incoming, h.quiet.workers, h.quiet.threads⟩, h.member, rfl,
    by simp, by simp [isDelivered], by simp [deliveriesOf], ?_⟩
  simp only [enqueue, h.session, if_true, henqueue, staged, ← h.quiet.incoming]

/-- A call that is accepted takes its course. -/
theorem awaited_of_course (h : w.IsReady k m) (hopen : m.client.closed = false)
    (hgate : m.processor.gateOpen) (hphase : m.processor.phase = .running)
    (hpassive : mode.isPassive) {ds : List Duration} {st : Store} {e : Option Event}
    (hcourse : m.Course w.die (.fresh w.calls.length payload mode none) w.clock w.store ds st e) :
    awaited (w.later α k m (.ok payload) mode) =
      (.ok (e.toList.map fun e => { e with context := mode.context }), st) := by
  obtain ⟨w', hquiet, hm, hdie, hticket, hfresh, hnone, henqueue⟩ :=
    h.exists_enqueue hgate hphase payload mode
  have hrule : ∀ e, m.client.config.policy.rule.retriesOn e → e.isRetryable := fun e he => by
    rwa [RetryPolicy.retriesOn_of_isCounted h.policy] at he
  rw [← hdie] at hcourse
  obtain ⟨hstore, hdeliveries⟩ := hquiet.await_of_course hm h.root h.tampering hrule hcourse
    h.session rfl hpassive hticket hfresh rfl
  have hn : (Job.fresh w.calls.length payload mode none).ticket = w.calls.length := rfl
  rw [hn, hnone] at hdeliveries
  rw [later_of_ok hopen, henqueue]
  simp only [awaited, Except.map, Prod.mk.injEq, Except.ok.injEq]
  exact ⟨hdeliveries, hstore⟩

variable {attempt : Nat → Store × Tampering → Except StoreError α × Store × Tampering}
  {told : Except Failure α → Event} {conclude : Except Failure α → Except Failure β}

/-- A loop in the foreground and the course of the call in the background. -/
theorem exists_foreground (h : w.IsReady k m) (hmirrors : m.Mirrors payload attempt told)
    (hwork : Loops m work attempt conclude) (mode : Mode) :
    ∃ result ds, (w.foreground k m work).1 = conclude result ∧
      w.delays m (w.waits (w.foreground k m work).2 k).length = ds ∧
      (∀ f, result = .error f → f.isRejection = false) ∧
      (Processor.Lasts w.clock ds → m.Course w.die (.fresh w.calls.length payload mode none)
        w.clock w.store ds (w.foreground k m work).2.store (some (told result))) ∧
      (¬Processor.Lasts w.clock ds → ∃ ds' st, m.Course w.die
        (.fresh w.calls.length payload mode none) w.clock w.store ds' st none) := by
  -- a policy without a limit goes on as long as there are faults
  have hbudget : w.store.faults.length ≤
        m.client.config.retryBudget (Tampering.link m.session) (w.store, .none) ∨
      m.client.config.policy.rule.GivesUpBy (RetryLoop.fresh.retries +
        m.client.config.retryBudget (Tampering.link m.session) (w.store, .none)) := by
    rw [Config.retryBudget]
    cases hlimit : m.client.config.policy.retryLimit? with
    | none => exact .inl (Nat.le_refl _)
    | some n => exact .inr (by simpa [RetryLoop.fresh] using RetryPolicy.givesUpBy_rule hlimit)
  obtain ⟨result, ds, st, ws, hrun, hws, hlasts, hends⟩ := hmirrors.exists_course
    (j := .fresh w.calls.length payload mode none) h.policy h.session hbudget rfl rfl w.die w.clock
  have hretries : m.client.config.withRetries (Tampering.link m.session) attempt (w.store, .none) =
      (result, ds, st, .none) := by
    rw [Config.withRetries, hrun]
    rfl
  have hdone := hwork (w.store, .none)
  rw [hretries, ← h.tampering] at hdone
  obtain ⟨hresult, hstore, hwaits⟩ := foreground_of_eq h.member hdone
  refine ⟨result, ws, hresult, ?_, fun f hf => ?_, hstore ▸ hlasts, hends⟩
  · rw [hws, hwaits]
    simp only [Client.slept, List.drop_left]
    rfl
  · -- a loop ends with an error of the store, not with a rejection
    obtain ⟨n, s, e, hends, -⟩ := Config.exists_attempt_of_withRetries_error
      (c := m.client.config) (f := f) (by rw [hretries]; exact hf)
    cases hends <;> rfl

/-- **A call that is not rejected agrees exactly if the processor lasts for it.** -/
theorem awaited_eq_announced_iff_of_mirrors (h : w.IsReady k m) (hopen : m.client.closed = false)
    (hpassive : mode.isPassive) (hmirrors : m.Mirrors payload attempt told)
    (hwork : Loops m work attempt conclude)
    (htold : ∀ result, { told result with context := mode.context } = event (conclude result))
    (hconclude : ∀ result f, conclude result = .error f → f.isRejection → result = .error f) :
    awaited (w.later β k m (.ok payload) mode) = announced event (w.atOnce k m work) ↔
      w.Suits k m (w.atOnce k m work) := by
  obtain ⟨result, ds, hresult, hwaits, hsent, hlasts, hends⟩ :=
    h.exists_foreground hmirrors hwork mode
  -- a rejection would be one by the loop, of which there is none
  have hnot : ∀ f, (w.foreground k m work).1 = .error f → f.isRejection = false := fun f hf => by
    by_contra hrejection
    rw [hresult] at hf
    rw [hsent f (hconclude result f hf (by simpa using hrejection))] at hrejection
    exact hrejection rfl
  rw [announced_atOnce hnot, suits_atOnce_iff hnot, hresult, hwaits]
  -- on both sides it is the processor that decides
  obtain ⟨hgate, hphase | hphase⟩ := h.processor hopen
  · by_cases hlast : Processor.Lasts w.clock ds
    · rw [h.awaited_of_course hopen hgate hphase hpassive (hlasts hlast)]
      simp [hphase, hlast, htold]
    · obtain ⟨ds', st, hcourse⟩ := hends hlast
      rw [h.awaited_of_course hopen hgate hphase hpassive hcourse]
      simp [hlast]
  · rw [later_of_ok hopen, enqueue_of_dead hphase]
    simp [awaited, Except.map, hphase]

/-- A call agrees if it is rejected, or if it agrees once it has been prepared. -/
theorem awaited_eq_announced_iff_of_prepared (h : w.IsReady k m) {p : Except Failure Payload}
    (hclosed : m.client.closed →
      ∀ s, work (Tampering.link m.session) m.client s = (.error .shuttingDown, m.client, s))
    (hprepared : m.client.closed = false →
      (∃ f, p = .error f ∧ f.isRejection ∧
        ∀ s, work (Tampering.link m.session) m.client s = (.error f, m.client, s)) ∨
      ∃ payload, p = .ok payload ∧
        (awaited (w.later β k m (.ok payload) mode) = announced event (w.atOnce k m work) ↔
          w.Suits k m (w.atOnce k m work))) :
    awaited (w.later β k m p mode) = announced event (w.atOnce k m work) ↔
      w.Suits k m (w.atOnce k m work) := by
  cases hopen : m.client.closed with
  | true =>
    rw [later_of_closed hopen]
    exact awaited_eq_announced_iff_of_rejected h.member rfl (hclosed hopen)
  | false =>
    obtain ⟨f, rfl, hf, hwork⟩ | ⟨payload, rfl, hagree⟩ := hprepared hopen
    · rw [later_of_error hopen]
      exact awaited_eq_announced_iff_of_rejected h.member hf hwork
    · exact hagree

end IsReady

/-! ## Operations and transactions -/

theorem execute_foreground (w : World) (k : Nat) (m : Member) (o : Operation) :
    w.execute k m o .foreground = w.atOnce k m fun link c s => c.execute link o s := rfl

theorem submit_foreground (w : World) (k : Nat) (m : Member) (os : List Operation) :
    w.submit k m os .foreground = w.atOnce k m fun link c s => c.submit link os s := rfl

theorem execute_background (hbackground : mode.background) (o : Operation) :
    w.execute k m o mode =
      w.later Answer k m ((m.client.prepare o).map (Payload.single · o.path)) mode := by
  rw [execute, if_pos hbackground]
  rfl

theorem submit_background (hbackground : mode.background) (os : List Operation) :
    w.submit k m os mode =
      w.later (List Outcome) k m ((m.client.prepareBatch os).map .batch) mode := by
  rw [submit, if_pos hbackground]
  rfl

/-- **The background and the foreground agree exactly if the processor lasts for the call.** -/
theorem IsReady.awaited_eq_announced_iff (h : w.IsReady k m) (hbackground : mode.background)
    (hpassive : mode.isPassive) :
    (∀ o, awaited (w.execute k m o mode) =
        announced (mode.executed o) (w.execute k m o .foreground) ↔
      w.Suits k m (w.execute k m o .foreground)) ∧
    ∀ os, awaited (w.submit k m os mode) =
        announced mode.submitted (w.submit k m os .foreground) ↔
      w.Suits k m (w.submit k m os .foreground) := by
  refine ⟨fun o => ?_, fun os => ?_⟩
  · rw [execute_background hbackground, execute_foreground]
    refine h.awaited_eq_announced_iff_of_prepared (fun hclosed s => ?_) (fun hopen => ?_)
    · simp [Client.execute, Client.checkOpen, hclosed]
    cases hprepare : m.client.prepare o with
    | error f =>
      refine .inl ⟨f, rfl, Client.isRejection_of_prepare hprepare, fun s => ?_⟩
      simp [Client.execute, Client.checkOpen, hopen, hprepare]
    | ok r =>
      refine .inr ⟨_, rfl, h.awaited_eq_announced_iff_of_mirrors hopen hpassive
        (m.mirrors_single r o.path) (Client.execute_of_prepared h.root hopen hprepare)
        (fun result => ?_) fun result f hf _ => ?_⟩
      · rw [Client.eq_request_of_prepare hprepare, Client.type_request]
        rfl
      · cases result with
        | error f' => exact congrArg Except.error (Except.error.inj hf)
        | ok a => cases hf
  · rw [submit_background hbackground, submit_foreground]
    refine h.awaited_eq_announced_iff_of_prepared (fun hclosed s => ?_) (fun hopen => ?_)
    · simp [Client.submit, Client.checkOpen, hclosed]
    cases hprepare : m.client.prepareBatch os with
    | error f =>
      refine .inl ⟨f, rfl, Client.isRejection_of_prepareBatch hprepare, fun s => ?_⟩
      simp [Client.submit, Client.checkOpen, hopen, hprepare]
    | ok b =>
      exact .inr ⟨_, rfl, h.awaited_eq_announced_iff_of_mirrors hopen hpassive
        (m.mirrors_batch (Client.isTyped_of_prepareBatch hprepare) h.policy)
        (Client.submit_of_prepared h.root hopen hprepare) (fun _ => rfl)
        fun _ _ hf => Client.eq_error_of_conclude hf⟩

/-! ## One client, two policies -/

/-- A client of a namespace whose root it has ensured. -/
def resident (policy : RetryPolicy) : Member :=
  { session := ⟨1, []⟩
    tampering := .none
    client := { Client.tenant with config := { Client.tenant.config with policy } }
    processor := .initial
    held := []
    eventListeners := []
    errorListeners := [] }

/-- A world with the client, in which one request and two answers will be lost. -/
def housed (policy : RetryPolicy) : World :=
  { initial with store := Client.lossy, members := [resident policy] }

theorem isReady_housed {policy : RetryPolicy} (h : policy.isCounted) :
    (housed policy).IsReady 0 (resident policy) where
  quiet :=
    { processors := by
        intro k m hm
        obtain rfl : m = resident policy := List.mem_singleton.mp (List.mem_of_getElem? hm)
        exact ⟨by rintro ⟨⟩, fun _ => ⟨rfl, rfl, rfl⟩⟩
      incoming := rfl
      workers := by
        intro i x hx
        cases hx
      threads := List.nodup_nil }
  member := rfl
  root := by
    intro root hroot
    obtain rfl : "/svc" = root := by simpa [resident, Client.tenant] using hroot
    have hensured : Client.tenant.rootEnsurer.isEnsured "/svc" := by decide +kernel
    exact ⟨by decide +kernel, hensured⟩
  session := by
    have hconnected : Client.lossy.isConnected ⟨1, []⟩ := by decide +kernel
    exact hconnected
  tampering := rfl
  policy := h
  processor _ := ⟨rfl, .inl rfl⟩

/-- The client creates a node of its own. -/
def arriving (policy : RetryPolicy) (mode : Mode) : Except Failure (Submission Answer) × World :=
  (housed policy).execute 0 (resident policy) Client.presence mode

/-- What its caller is told: the node is there, but an earlier sending has created it. -/
def arrived : Event := { Event.bare .create (some "/here") with name := some "/here" }

/-- With waits of a millisecond the node is created in both ways. -/
theorem awaited_arriving_of_brief :
    (housed (.nTimes 5 (.ofMillis 1))).IsReady 0 (resident (.nTimes 5 (.ofMillis 1))) ∧
      awaited (arriving (.nTimes 5 (.ofMillis 1)) .inBackground) =
        announced (Mode.inBackground.executed Client.presence)
          (arriving (.nTimes 5 (.ofMillis 1)) .foreground) ∧
      (awaited (arriving (.nTimes 5 (.ofMillis 1)) .inBackground)).1 = .ok [arrived] := by
  have hlasts : Processor.Lasts 0 ((housed (.nTimes 5 (.ofMillis 1))).delays
      (resident (.nTimes 5 (.ofMillis 1))) ((housed (.nTimes 5 (.ofMillis 1))).waits
        (arriving (.nTimes 5 (.ofMillis 1)) .foreground).2 0).length) := by
    decide +kernel
  have hready : (housed (.nTimes 5 (.ofMillis 1))).IsReady 0 (resident (.nTimes 5 (.ofMillis 1))) :=
    isReady_housed rfl
  have hpassive : Mode.inBackground.isPassive := rfl
  have hagree := ((hready.awaited_eq_announced_iff rfl hpassive).1 Client.presence).mpr
    (.inr ⟨rfl, hlasts⟩)
  refine ⟨hready, hagree, ?_⟩
  have htold : (announced (Mode.inBackground.executed Client.presence)
      (arriving (.nTimes 5 (.ofMillis 1)) .foreground)).1 = .ok [arrived] := by
    decide +kernel
  exact (congrArg Prod.fst hagree).trans htold

/-- With the longest waits there are the node is created in the foreground, and in the background
the caller is never told anything. -/
theorem awaited_arriving_of_endless :
    (housed (.nTimes 5 .greatest)).IsReady 0 (resident (.nTimes 5 .greatest)) ∧
      awaited (arriving (.nTimes 5 .greatest) .inBackground) ≠
        announced (Mode.inBackground.executed Client.presence)
          (arriving (.nTimes 5 .greatest) .foreground) := by
  refine ⟨isReady_housed rfl, fun h => ?_⟩
  have hsilent : (awaited (arriving (.nTimes 5 .greatest) .inBackground)).1 = .ok [] := by
    decide +kernel
  have htold : (announced (Mode.inBackground.executed Client.presence)
      (arriving (.nTimes 5 .greatest) .foreground)).1 = .ok [arrived] := by
    decide +kernel
  rw [h, htold] at hsilent
  cases hsilent

end World

end Coordination
