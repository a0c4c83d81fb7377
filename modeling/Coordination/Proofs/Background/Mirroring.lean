import Mathlib
import Coordination.Proofs.Background.Course

/-!
# Retry loops and courses

A retry loop in the foreground and the processor in the background ask the store for the same and
decide by the same rule, but they are told different things: the loop sees an answer that has been
settled, the processor the reply itself, and only when the call is over does it make an event of it.
If the attempts of a loop mirror those of a call, and the policy counts its retries rather than the
time, then the loop and the call make the same attempts, as long as the processor lasts. They need
not wait as long, since each throws its own die.

A processor lasts through some waits if they lead to an instant. A loop waits however long it is
told to.

## Main definitions

* `RetryPolicy.isCounted`: the policies that count their retries, or make them without end
* `RetryPolicy.waits`: the waits that a policy asks for, as the die falls
* `Member.Mirrors`: the attempts of a loop are those of a call
* `Processor.Lasts`: some waits lead to an instant

## Main results

* `Member.Mirrors.exists_course`: a call takes the course of a loop
* `Member.mirrors_single`, `Member.mirrors_batch`: the loops of operations and transactions
-/

namespace Coordination

/-! ## Policies that count -/

namespace RetryPolicy

/-- Whether a policy counts its retries, or makes them without end, on the errors that are worth a
retry. -/
def isCounted : RetryPolicy → Bool
  | nTimes .. | oneTime _ | forever _ | exponential _ | bounded _ => true
  | untilElapsed .. | custom .. => false

variable {p : RetryPolicy} {e : StoreError}

theorem retriesOn_of_isCounted (h : p.isCounted) (e : StoreError) :
    p.rule.retriesOn e = e.isRetryable := by
  cases p <;> first | rfl | cases h

/-- A policy that counts does not look at the clock. -/
theorem delay?_of_isCounted (h : p.isCounted) (retries roll : Nat) (elapsed elapsed' : Duration) :
    p.delay? retries elapsed roll = p.delay? retries elapsed' roll := by
  cases p <;> first | rfl | cases h

/-- However the die falls, a policy that counts asks for as many retries. -/
theorem delay?_eq_none_iff_of_isCounted (h : p.isCounted) (retries roll roll' : Nat)
    (elapsed elapsed' : Duration) :
    p.delay? retries elapsed roll = none ↔ p.delay? retries elapsed' roll' = none := by
  rw [delay?_of_isCounted h retries roll elapsed elapsed']
  cases p <;> simp only [delay?] <;> split <;> simp

/-- The waits that a policy asks for before so many retries, the first of which comes after `first`
others, as the die falls. The clock shows no time. -/
def waits (p : RetryPolicy) (die : Nat → Nat) (first n : Nat) : List Duration :=
  (List.range' first n).filterMap fun retries => p.delay? retries .zero (die retries)

theorem waits_succ {die : Nat → Nat} {first : Nat} {d : Duration}
    (h : p.delay? first .zero (die first) = some d) (n : Nat) :
    p.waits die first (n + 1) = d :: p.waits die (first + 1) n := by
  rw [waits, List.range'_succ, List.filterMap_cons, h]
  rfl

end RetryPolicy

namespace Job

variable {p : RetryPolicy} {l : RetryLoop} {die : Nat → Nat → Nat} {now : Nat} {j : Job}
  {reply : StoreReply} {e : StoreError}

/-- After an error that is worth a retry the call has to wait as the policy says and the die
falls. -/
theorem delay?_of_isRetryable (hp : p.isCounted) (h : reply.error? = some e) (he : e.isRetryable) :
    delay? p.rule die now j reply = p.delay? j.retries .zero (die j.ticket j.retries) := by
  rw [delay?, h]
  dsimp only
  rw [RetryRule.next?, RetryPolicy.retriesOn_of_isCounted hp, if_pos he]
  exact RetryPolicy.delay?_of_isCounted hp _ _ _ _

/-- A call that has come as far as a loop has to wait just if the loop has to. -/
theorem delay?_eq_none_iff_next? (hp : p.isCounted) (h : reply.error? = some e)
    (he : e.isRetryable) (hj : j.retries = l.retries) (around : Surroundings) :
    delay? p.rule die now j reply = none ↔ l.next? p.rule around e = none := by
  rw [delay?_of_isRetryable hp h he, hj, RetryLoop.next?, RetryRule.next?,
    RetryPolicy.retriesOn_of_isCounted hp, if_pos he]
  exact RetryPolicy.delay?_eq_none_iff_of_isCounted hp _ _ _ _ _

/-- A reply without an error that is worth a retry is final. -/
theorem delay?_eq_none (hp : p.isCounted) (h : ∀ e, reply.error? = some e → e.isRetryable = false) :
    delay? p.rule die now j reply = none := by
  rw [delay?]
  split
  · rfl
  · rename_i e he
    rw [RetryRule.next?, RetryPolicy.retriesOn_of_isCounted hp, h e he, if_neg Bool.false_ne_true]

end Job

/-! ## Waits that lead to an instant -/

/-- Whether a processor lasts through some waits: they lead to an instant. -/
def Processor.Lasts (now : Nat) (ds : List Duration) : Prop :=
  ds = [] ∨ now + (ds.map Duration.nanos).sum < instantLimit

instance (now : Nat) (ds : List Duration) : Decidable (Processor.Lasts now ds) :=
  inferInstanceAs (Decidable (_ ∨ _))

theorem Processor.lasts_cons {now : Nat} {d : Duration} {ds : List Duration} :
    Lasts now (d :: ds) ↔ now + d.nanos < instantLimit ∧ Lasts (now + d.nanos) ds := by
  unfold Lasts
  cases ds with
  | nil => simp
  | cons d' ds =>
    simp only [List.map_cons, List.sum_cons, reduceCtorEq, false_or]
    omega

/-! ## Loops and courses -/

namespace Member

variable {α : Type} {m : Member} {p : Payload} {told : Except Failure α → Event}
  {attempt : Nat → Store × Tampering → Except StoreError α × Store × Tampering}

/-- Whether the attempts of a loop mirror those of a call whose event is `told` of what the loop
comes to. -/
structure Mirrors (m : Member) (p : Payload)
    (attempt : Nat → Store × Tampering → Except StoreError α × Store × Tampering)
    (told : Except Failure α → Event) : Prop where
  /-- They ask the store for the same. -/
  store : ∀ n st, (attempt n (st, .none)).2 = ((p.ask m.session st).2, .none)
  /-- They meet the same errors that are worth a retry. -/
  error : ∀ n st e, e.isRetryable →
    ((attempt n (st, .none)).1 = .error e ↔ (p.ask m.session st).1.error? = some e)
  /-- A success is told. -/
  succeeded : ∀ (j : Job) st a, j.payload = p → (attempt j.retries (st, .none)).1 = .ok a →
    j.event m.client.space (p.ask m.session st).1 = .ok (told (.ok a))
  /-- A failure is told. -/
  failed : ∀ (j : Job) st e f, j.payload = p → (attempt j.retries (st, .none)).1 = .error e →
    RetryLoop.EndsBy m.client.config.policy.rule e f →
      j.event m.client.space (p.ask m.session st).1 = .ok (told (.error f))

variable {st : Store} {s : Store × Tampering} {x : Except StoreError α} {a : α} {e : StoreError}
  {j : Job} {die : Nat → Nat → Nat} {now n budget : Nat} {l : RetryLoop} {sleep : Duration}

theorem Mirrors.state_eq (h : m.Mirrors p attempt told) (hx : attempt n (st, .none) = (x, s)) :
    s = ((p.ask m.session st).2, .none) := by
  rw [← h.store n st, hx]

/-- A reply to an attempt that succeeds is final. -/
theorem Mirrors.delay?_of_ok (h : m.Mirrors p attempt told)
    (hpolicy : m.client.config.policy.isCounted) (ha : (attempt n (st, .none)).1 = .ok a) :
    Job.delay? m.client.config.policy.rule die now j (p.ask m.session st).1 = none := by
  refine Job.delay?_eq_none hpolicy fun e he => ?_
  by_contra hretryable
  have herror := (h.error n st e (by simpa using hretryable)).mpr he
  rw [ha] at herror
  cases herror

/-- So is one to an attempt that ends the loop. -/
theorem Mirrors.delay?_of_end (h : m.Mirrors p attempt told)
    (hpolicy : m.client.config.policy.isCounted) (hs : st.isConnected m.session)
    (hbudget : st.faults.length ≤ budget ∨
      m.client.config.policy.rule.GivesUpBy (l.retries + budget)) (hj : j.retries = l.retries)
    (he : (attempt l.retries (st, .none)).1 = .error e)
    (hend : budget = 0 ∨
      l.next? m.client.config.policy.rule m.client.config.sleeper.surroundings e = none) :
    Job.delay? m.client.config.policy.rule die now j (p.ask m.session st).1 = none := by
  by_cases hretryable : e.isRetryable
  · have herror := (h.error l.retries st e hretryable).mp he
    rw [Job.delay?_eq_none_iff_next? hpolicy herror hretryable hj
      m.client.config.sleeper.surroundings]
    rcases hend with rfl | hnone
    · -- without a budget there is no fault left, or the rule gives up
      rcases hbudget with hfaults | hgives
      · have hfault := Payload.faults_ask_of_retryable hs herror hretryable
        omega
      · exact hgives l.retries (Nat.le_refl _) _ _ _
    · exact hnone
  · refine Job.delay?_eq_none hpolicy fun e' he' => ?_
    by_contra hretryable'
    have herror := (h.error l.retries st e' (by simpa using hretryable')).mpr he'
    rw [he] at herror
    obtain rfl : e = e' := by simpa using herror
    exact hretryable' (by simpa using hretryable)

/-- An attempt that is made again has met an error that is worth a retry, and the call waits as the
die falls for it. -/
theorem Mirrors.delay?_of_retry (h : m.Mirrors p attempt told)
    (hpolicy : m.client.config.policy.isCounted) (hj : j.retries = l.retries)
    (he : (attempt l.retries (st, .none)).1 = .error e)
    (hnext : l.next? m.client.config.policy.rule m.client.config.sleeper.surroundings e =
      some sleep) (die : Nat → Nat → Nat) (now : Nat) :
    e.isRetryable ∧ (p.ask m.session st).1.error? = some e ∧
      ∃ wait, m.client.config.policy.delay? l.retries .zero (die j.ticket l.retries) = some wait ∧
        Job.delay? m.client.config.policy.rule die now j (p.ask m.session st).1 = some wait := by
  have hretryable : e.isRetryable := by
    rw [← RetryPolicy.retriesOn_of_isCounted hpolicy]
    by_contra hretries
    rw [RetryLoop.next?_of_not_retriesOn (by simpa using hretries)] at hnext
    cases hnext
  have herror := (h.error l.retries st e hretryable).mp he
  have hdelay : Job.delay? m.client.config.policy.rule die now j (p.ask m.session st).1 =
      m.client.config.policy.delay? j.retries .zero (die j.ticket j.retries) :=
    Job.delay?_of_isRetryable hpolicy herror hretryable
  have hsome : Job.delay? m.client.config.policy.rule die now j (p.ask m.session st).1 ≠ none := by
    rw [ne_eq, Job.delay?_eq_none_iff_next? hpolicy herror hretryable hj
      m.client.config.sleeper.surroundings, hnext]
    simp
  obtain ⟨wait, hwait⟩ := Option.ne_none_iff_exists'.mp hsome
  exact ⟨hretryable, herror, wait, by rw [← hj, ← hdelay, hwait], hwait⟩

/-- **A call takes the course of a loop**, as long as the processor lasts through the waits that the
policy asks for in the background. -/
theorem Mirrors.exists_course (h : m.Mirrors p attempt told)
    (hpolicy : m.client.config.policy.isCounted) (hs : st.isConnected m.session)
    (hbudget : st.faults.length ≤ budget ∨
      m.client.config.policy.rule.GivesUpBy (l.retries + budget))
    (hj : j.payload = p) (hretries : j.retries = l.retries) (die : Nat → Nat → Nat) (now : Nat) :
    ∃ result ds st' ws, RetryLoop.run m.client.config.policy.rule
        m.client.config.sleeper.surroundings attempt budget l (st, .none) =
          (result, ⟨l.retries + ds.length, l.sleeps ++ ds⟩, st', .none) ∧
      ws = m.client.config.policy.waits (die j.ticket) l.retries ds.length ∧
      (Processor.Lasts now ws → m.Course die j now st ws st' (some (told result))) ∧
      (¬Processor.Lasts now ws → ∃ ws' st', m.Course die j now st ws' st' none) := by
  -- the induction follows the loop; the call keeps up with it, one retry and one wait at a time
  generalize hstart : (st, Tampering.none) = s
  induction budget, l, s using RetryLoop.run_induction m.client.config.policy.rule
    m.client.config.sleeper.surroundings attempt generalizing st j now with
  | ok budget l s a s' ha =>
    subst hstart
    obtain rfl := h.state_eq ha
    have hsucceeded : (attempt (j.begun now).retries (st, .none)).1 = .ok a := by
      rw [show (j.begun now).retries = l.retries from hretries, ha]
    -- a call that does not wait lasts
    refine ⟨.ok a, [], (p.ask m.session st).2, [], by simp [RetryLoop.run_of_ok ha], rfl,
      fun _ => ?_, fun hlasts => absurd (.inl rfl) hlasts⟩
    exact .done (by rw [hj]) (h.delay?_of_ok hpolicy hsucceeded)
      (h.succeeded (j.begun now) st a hj hsucceeded)
  | ended budget l s e s' he hend =>
    subst hstart
    obtain rfl := h.state_eq he
    have hretries' : (j.begun now).retries = l.retries := hretries
    have hfailed : (attempt l.retries (st, .none)).1 = .error e := by rw [he]
    obtain ⟨f, hf, hrun⟩ := RetryLoop.run_of_end he hend
    refine ⟨.error f, [], (p.ask m.session st).2, [], by simp [hrun], rfl, fun _ => ?_,
      fun hlasts => absurd (.inl rfl) hlasts⟩
    exact .done (by rw [hj])
      (h.delay?_of_end hpolicy hs hbudget hretries' hfailed hend)
      (h.failed (j.begun now) st e f hj (hretries' ▸ hfailed) hf)
  | retry budget l s e s' sleep he hnext ih =>
    subst hstart
    obtain rfl := h.state_eq he
    have hretries' : (j.begun now).retries = l.retries := hretries
    have hfailed : (attempt l.retries (st, .none)).1 = .error e := by rw [he]
    obtain ⟨hretryable, herror, wait, hwait, hdelay⟩ :=
      h.delay?_of_retry hpolicy hretries' hfailed hnext die now
    have hask : j.payload.ask m.session st = ((p.ask m.session st).1, (p.ask m.session st).2) := by
      rw [hj]
    -- the error is one of the faults to come, so there is one less, like the budget
    have hbudget' : (p.ask m.session st).2.faults.length ≤ budget ∨
        m.client.config.policy.rule.GivesUpBy ((l.retried sleep).retries + budget) := by
      rcases hbudget with hfaults | hgives
      · have hfault := Payload.faults_ask_of_retryable hs herror hretryable
        exact .inl (by omega)
      · exact .inr (by rwa [RetryLoop.retried, Nat.add_assoc, Nat.add_comm 1])
    obtain ⟨result, ds, st', ws, hrun, hws, hlasts, hends⟩ := ih (j := (j.begun now).retried)
      (Payload.isConnected_ask hs p) hbudget' hj (congrArg (· + 1) hretries) (now + wait.nanos) rfl
    refine ⟨result, sleep :: ds, st', wait :: ws, ?_, ?_, fun h => ?_, fun h => ?_⟩
    · rw [RetryLoop.run_of_retry he hnext, hrun]
      simp [RetryLoop.retried, Nat.add_assoc, Nat.add_comm 1]
    · rw [hws, List.length_cons]
      exact (RetryPolicy.waits_succ hwait ds.length).symm
    · obtain ⟨hlimit, hrest⟩ := Processor.lasts_cons.mp h
      exact .again hask hdelay hlimit (hlasts hrest)
    · -- the processor ends at this wait, or at a later one
      by_cases hlimit : now + wait.nanos < Processor.instantLimit
      · obtain ⟨ws', st'', hcourse⟩ :=
          hends fun hrest => h (Processor.lasts_cons.mpr ⟨hlimit, hrest⟩)
        exact ⟨wait :: ws', st'', .again hask hdelay hlimit hcourse⟩
      · exact ⟨[], _, .lost hask hdelay hlimit⟩

end Member

/-! ## Events for outcomes -/

namespace Event

/-- The event of a call that would have been answered. -/
def ofAnswer (e : Event) : Answer → Event
  | .created p stat => { e with name := some p, stat }
  | .dataSet stat => { e with stat := some stat }
  | .deleted | .checked => e
  | .failed code => { e with code := some code }

/-- The event of a call that would have failed. -/
def ofFailure (e : Event) : Failure → Event
  | .transactionFailed _ _ code outcomes =>
    { e with code := some code, outcomes := some outcomes }
  | f => { e with code := f.code? }

/-- The event of an operation that would have come to something in the foreground. -/
def ofExecuted (e : Event) : Except Failure Answer → Event
  | .ok a => e.ofAnswer a
  | .error f => e.ofFailure f

/-- The event of a transaction that would have come to something in the foreground. -/
def ofSubmitted (e : Event) : Except Failure (List Outcome) → Event
  | .ok outcomes => { e with outcomes := some outcomes }
  | .error f => e.ofFailure f

end Event

/-! ## Operations and transactions -/

/-- A loop does not fail like a transaction. -/
theorem RetryLoop.EndsBy.ofFailure_eq {rule : RetryRule} {e : StoreError} {f : Failure}
    (h : EndsBy rule e f) (event : Event) :
    event.ofFailure f = { event with code := some e.code } := by
  cases h <;> rfl

theorem Request.settled_eq_error_iff {r : Request} {n : Nat} {result : Except StoreError Answer}
    {e : StoreError} (he : e.isRetryable) : r.settled n result = .error e ↔ result = .error e := by
  refine ⟨fun h => ?_, fun h => ?_⟩
  · unfold settled at h
    split at h
    · cases h
    · split at h
      · exact h
      · split at h
        · cases h
        · exact h
  · rw [h, settled]
    simp only [r.replayed?_eq_none he, ite_self]

/-- What an answer comes to in the background is what it comes to in the foreground. -/
theorem Job.answered_ok (n : Namespace) (e : Event) (a : Answer) :
    answered n e (.ok a) = e.ofAnswer (Client.reported n a) := by
  cases a <;> rfl

namespace Tampering

theorem single_none (result : Except StoreError Answer) :
    Tampering.none.single result = (result, .none) := by
  cases result <;> rfl

theorem batch_none (result : Except StoreError (List Answer)) :
    Tampering.none.batch result = (result, .none) := by
  cases result <;> rfl

end Tampering

namespace Member

/-- **The loop of an operation.** -/
theorem mirrors_single (m : Member) (r : Request) (path : String) :
    m.Mirrors (.single r path) (Client.attempt (Tampering.link m.session) r) fun result =>
      (Event.bare r.type.eventType (some path)).ofExecuted
        (result.map (Client.reported m.client.space)) := by
  have hattempt (n : Nat) (st : Store) :
      Client.attempt (Tampering.link m.session) r n (st, .none) =
        (r.settled n (st.submit m.session r).1, (st.submit m.session r).2, .none) := by
    simp only [Client.attempt, Tampering.link, Tampering.single_none]
  constructor
  · intro n st
    rw [hattempt]
    rfl
  · intro n st e he
    rw [hattempt, Payload.error?_ask_single]
    exact Request.settled_eq_error_iff he
  · rintro ⟨ticket, _, mode, decided, retries, started⟩ st a rfl ha
    rw [hattempt] at ha
    dsimp only at ha
    simp only [Job.event, Payload.ask, ha, Job.answered_ok, Except.map, Event.ofExecuted]
    rfl
  · rintro ⟨ticket, _, mode, decided, retries, started⟩ st e f rfl he hf
    rw [hattempt] at he
    dsimp only at he
    simp only [Job.event, Payload.ask, he, Job.answered, Except.map, Event.ofExecuted,
      hf.ofFailure_eq]
    rfl

/-- **The loop of a transaction.** -/
theorem mirrors_batch (m : Member) {b : Batch} (hb : b.IsTyped)
    (hpolicy : m.client.config.policy.isCounted) :
    m.Mirrors (.batch b) (fun _ s => (Tampering.link m.session).multi s b.requests) fun result =>
      (Event.bare .transaction none).ofSubmitted
        (Client.conclude m.client.space b result) := by
  have hattempt (st : Store) : (Tampering.link m.session).multi (st, .none) b.requests =
      ((st.multi m.session b.requests).1, (st.multi m.session b.requests).2, .none) := by
    simp only [Tampering.link, Tampering.batch_none]
  constructor
  · intro n st
    rw [hattempt]
    rfl
  · intro n st e he
    rw [hattempt, Payload.error?_ask_batch]
  · rintro ⟨ticket, _, mode, decided, retries, started⟩ st answers rfl ha
    rw [hattempt] at ha
    dsimp only at ha
    obtain ⟨os, hos⟩ := Batch.exists_outcomes_of_multi hb m.client.space ha
    simp only [Job.event, Payload.ask, ha, Client.conclude, hos, Except.map, Event.ofSubmitted]
    rfl
  · rintro ⟨ticket, _, mode, decided, retries, started⟩ st e f rfl he hf
    rw [hattempt] at he
    dsimp only at he
    cases e with
    | aborted index code answers =>
      -- an aborted batch is not sent again
      have hfinal : (StoreError.aborted index code answers).isRetryable = false :=
        (Store.eq_abortedBatch_of_multi he).1
      obtain ⟨os, hos⟩ := Batch.exists_outcomes_of_aborted m.client.space he
      cases hf with
      | exhausted hretries =>
        rw [RetryPolicy.retriesOn_of_isCounted hpolicy, hfinal] at hretries
        cases hretries
      | refused =>
        simp only [Job.event, Payload.ask, he, Client.conclude, hos, Except.map,
          Event.ofSubmitted, Event.ofFailure]
        rfl
    | refused | closed =>
      have hconclude : Client.conclude m.client.space b (.error f) = .error f := by
        cases hf <;> rfl
      simp only [Job.event, Payload.ask, he, hconclude, Event.ofSubmitted, hf.ofFailure_eq]
      rfl

end Member

end Coordination
