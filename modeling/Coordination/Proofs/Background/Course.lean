import Coordination.Proofs.Background.Quiet
import Coordination.Proofs.Client.Operations
import Coordination.Proofs.Store.Answers

/-!
# The course of a background call

What becomes of a single background call in a world that is otherwise quiet: the processor asks the
store, the reply comes in, and the processor finishes the call, or parks it and asks again when its
delay is over, or ends because the delay leads to no instant. `Member.Course` says this of the store
alone, without threads, queues and due times, and `World.IsQuiet.await_of_course` says that a world
goes that way.

## Main definitions

* `Payload.ask`: what the store says to a payload
* `Member.Course`: the course of a call
* `World.staged`: a world in which one client has something to do

## Main results

* `Member.Course.length_le`: the faults to come bound the retries
* `World.IsQuiet.exists_leads_of_course`: a quiet world follows the course of a call
* `World.IsQuiet.await_of_course`: waiting for the event comes to the end of it
-/

namespace Coordination

/-! ## Asking the store -/

/-- What the store says to a payload, and what it becomes. -/
def Payload.ask (s : Session) : Payload → Store → StoreReply × Store
  | .single r _, st => (.single (st.submit s r).1, (st.submit s r).2)
  | .batch b, st => (.batch (st.multi s b.requests).1, (st.multi s b.requests).2)

namespace Payload

variable {p : Payload} {s : Session} {st : Store} {e : StoreError}

theorem isConnected_ask (hs : st.isConnected s) (p : Payload) : (p.ask s st).2.isConnected s := by
  cases p with
  | single r path => exact Store.isConnected_submit hs r
  | batch b => exact Store.isConnected_multi hs b.requests

theorem error?_ask_single {r : Request} {path : String} :
    ((single r path).ask s st).1.error? = some e ↔ (st.submit s r).1 = .error e := by
  rw [ask]
  cases (st.submit s r).1 <;> simp [StoreReply.error?]

theorem error?_ask_batch {b : Batch} :
    ((batch b).ask s st).1.error? = some e ↔ (st.multi s b.requests).1 = .error e := by
  rw [ask]
  cases (st.multi s b.requests).1 <;> simp [StoreReply.error?]

/-- An error that is worth a retry takes a fault. -/
theorem faults_ask_of_retryable (hs : st.isConnected s) (h : (p.ask s st).1.error? = some e)
    (he : e.isRetryable) : st.faults.length = (p.ask s st).2.faults.length + 1 := by
  cases p with
  | single r path => exact Store.faults_submit_of_retryable hs (error?_ask_single.mp h) he
  | batch b => exact Store.faults_multi_of_retryable hs (error?_ask_batch.mp h) he

end Payload

/-! ## Courses -/

/-- The course of a call of a client that begins at an instant with a store: how long the processor
waits between the attempts, as the die falls, the store in the end, and the event, unless the
processor ends before. -/
inductive Member.Course (m : Member) (die : Nat → Nat → Nat) :
    Job → Nat → Store → List Duration → Store → Option Event → Prop
  /-- The reply is final. -/
  | done {j : Job} {now : Nat} {st st' : Store} {reply : StoreReply} {e : Event}
      (hask : j.payload.ask m.session st = (reply, st'))
      (hdelay : Job.delay? m.client.config.policy.rule die now (j.begun now) reply = none)
      (hevent : (j.begun now).event m.client.space reply = .ok e) :
      Course m die j now st [] st' (some e)
  /-- The call is to be sent again, but the delay leads to no instant. -/
  | lost {j : Job} {now : Nat} {st st' : Store} {reply : StoreReply} {d : Duration}
      (hask : j.payload.ask m.session st = (reply, st'))
      (hdelay : Job.delay? m.client.config.policy.rule die now (j.begun now) reply = some d)
      (hlimit : ¬now + d.nanos < Processor.instantLimit) : Course m die j now st [] st' none
  /-- The call is sent again after a delay. -/
  | again {j : Job} {now : Nat} {st st' st'' : Store} {reply : StoreReply} {d : Duration}
      {ds : List Duration} {e : Option Event}
      (hask : j.payload.ask m.session st = (reply, st'))
      (hdelay : Job.delay? m.client.config.policy.rule die now (j.begun now) reply = some d)
      (hlimit : now + d.nanos < Processor.instantLimit)
      (h : Course m die (j.begun now).retried (now + d.nanos) st' ds st'' e) :
      Course m die j now st (d :: ds) st'' e

namespace Member

variable {m : Member} {die : Nat → Nat → Nat} {j : Job} {now : Nat} {st st' : Store}
  {ds : List Duration} {e : Option Event}

/-- A delay is for an error that the policy considers. -/
theorem exists_error_of_delay? {rule : RetryRule} {reply : StoreReply} {d : Duration}
    (h : Job.delay? rule die now j reply = some d) :
    ∃ e, reply.error? = some e ∧ rule.retriesOn e := by
  unfold Job.delay? at h
  split at h
  · cases h
  · rename_i e he
    refine ⟨e, he, ?_⟩
    unfold RetryRule.next? at h
    split at h
    · assumption
    · cases h

/-- **The faults to come bound the retries.** -/
theorem Course.length_le (h : m.Course die j now st ds st' e) (hs : st.isConnected m.session)
    (hrule : ∀ e, m.client.config.policy.rule.retriesOn e → e.isRetryable) :
    ds.length ≤ st.faults.length := by
  induction h with
  | done | lost => exact Nat.zero_le _
  | @again j now st st' st'' reply d ds e hask hdelay hlimit h ih =>
    obtain ⟨refusal, hrefusal, hretries⟩ := exists_error_of_delay? hdelay
    have hst' : (j.payload.ask m.session st).2 = st' := by rw [hask]
    have hfaults :=
      Payload.faults_ask_of_retryable (p := j.payload) hs (by rw [hask]; exact hrefusal)
      (hrule refusal hretries)
    rw [hst'] at hfaults
    have hconnected : st'.isConnected m.session := hst' ▸ Payload.isConnected_ask hs j.payload
    have hrest := ih hconnected
    rw [List.length_cons]
    omega

end Member

/-! ## Processors with one call -/

namespace Processor

/-- A processor with nothing to do whose next parked call has a given number. -/
def vacant (n : Nat) : Processor := { initial with nextId := n }

/-- A processor that runs and has nothing to do. -/
theorem eq_vacant {p : Processor} (h : p.IsIdle) (hgate : p.gateOpen)
    (hphase : p.phase = .running) :
    p = vacant p.nextId := by
  obtain ⟨hqueue, hdue, hparked⟩ := h.2 hphase
  obtain ⟨gateOpen, phase, queue, due, parked, nextId⟩ := p
  simp_all [vacant, initial]

theorem isIdle_vacant (n : Nat) : (vacant n).IsIdle :=
  ⟨by rintro ⟨⟩, fun _ => ⟨rfl, rfl, rfl⟩⟩

theorem isIdle_die (p : Processor) : p.die.IsIdle := ⟨by rintro ⟨⟩, by rintro ⟨⟩⟩

variable {delay? : Job → StoreReply → Option Duration} {now due n : Nat} {j : Job}
  {reply : StoreReply} {d : Duration}

/-- A final reply is the end of its call. -/
theorem step?_of_final (h : delay? j reply = none) (n : Nat) :
    ((vacant n).push (.completed j reply)).step? delay? now = some (.finish j reply, vacant n) := by
  have htake : (vacant n).take delay? now (.completed j reply) = (.finish j reply, vacant n) := by
    simp only [take, h]
  exact congrArg some htake

/-- A call whose delay leads to an instant is parked. -/
theorem step?_of_delay (h : delay? j reply = some d) (hlimit : now + d.nanos < instantLimit)
    (n : Nat) :
    ((vacant n).push (.completed j reply)).step? delay? now =
      some (.none, (vacant n).park (now + d.nanos) j reply) := by
  have htake : (vacant n).take delay? now (.completed j reply) =
      (.none, (vacant n).park (now + d.nanos) j reply) := by
    simp only [take, h, if_pos hlimit]
  exact congrArg some htake

/-- A delay that leads to no instant is the end of the processor. -/
theorem step?_of_overflow (h : delay? j reply = some d) (hlimit : ¬now + d.nanos < instantLimit)
    (n : Nat) :
    ((vacant n).push (.completed j reply)).step? delay? now = some (.none, (vacant n).die) := by
  have htake : (vacant n).take delay? now (.completed j reply) = (.none, (vacant n).die) := by
    simp only [take, h, if_neg hlimit]
  exact congrArg some htake

/-- A parked call has to wait until it is due. -/
theorem step?_of_early (h : now < due) (n : Nat) (j : Job) (reply : StoreReply) :
    ((vacant n).park due j reply).step? delay? now = none := by
  have hdue : ((vacant n).park due j reply).dueNow? now = none := if_neg (Nat.not_le.mpr h)
  simp only [step?, park, vacant, initial] at hdue ⊢
  rw [hdue]

/-- A parked call that is due is sent again. -/
theorem step?_of_due (h : due ≤ now) (n : Nat) (j : Job) (reply : StoreReply) :
    ((vacant n).park due j reply).step? delay? now = some (.perform j.retried, vacant (n + 1)) := by
  have hdue : ((vacant n).park due j reply).dueNow? now = some (n, []) := if_pos h
  have herased : ((∅ : Std.ExtTreeMap Nat (Job × StoreReply)).insert n (j, reply)).erase n = ∅ := by
    ext i x
    simp
  simp only [step?, park, vacant, initial] at hdue ⊢
  rw [hdue]
  simp [resume, herased]

end Processor

namespace World

/-! ## Worlds with one busy client -/

/-- The world at an instant, with a store, replies on their way and another processor for a
client. -/
def staged (w : World) (k clock : Nat) (store : Store) (processor : Processor)
    (incoming : List IncomingReply) : World :=
  { w with clock, store, incoming }.updateMember k fun m => { m with processor }

variable {reached : World → Bool} {w w' : World} {k c n : Nat} {m : Member} {st st' : Store}
  {p q : Processor} {incoming : List IncomingReply} {j : Job} {reply : StoreReply} {a : Action}

theorem clock_staged : (w.staged k c st p incoming).clock = c := rfl

theorem die_staged : (w.staged k c st p incoming).die = w.die := rfl

theorem getElem?_staged (hm : w.members[k]? = some m) :
    (w.staged k c st p incoming).members[k]? = some { m with processor := p } := by
  simp [staged, updateMember, hm]

theorem getElem?_staged_of_ne {i : Nat} (hi : i ≠ k) :
    (w.staged k c st p incoming).members[i]? = w.members[i]? := by
  simp [staged, updateMember, hi.symm]

theorem updateMember_staged :
    ((w.staged k c st p incoming).updateMember k fun m => { m with processor := q }) =
      w.staged k c st q incoming := by
  simp only [staged, updateMember, List.modify_modify_eq]
  rfl

theorem updateMember_of_eq {f : Member → Member} (hm : w.members[k]? = some m) (hf : f m = m) :
    w.updateMember k f = w := by
  have hmembers : w.members.modify k f = w.members := by
    refine List.ext_getElem? fun i => ?_
    rw [List.getElem?_modify]
    by_cases hi : k = i
    · subst hi
      simp [hm, hf]
    · simp [hi]
  rw [updateMember, hmembers]

/-- A world in which the one client has nothing to do is quiet. -/
theorem IsQuiet.staged (hw : w.IsQuiet) (hm : w.members[k]? = some m) (hp : p.IsIdle) :
    (w.staged k c st p []).IsQuiet where
  processors := by
    intro i m' hm'
    by_cases hi : i = k
    · subst hi
      rw [getElem?_staged hm] at hm'
      cases hm'
      exact hp
    · rw [getElem?_staged_of_ne hi] at hm'
      exact hw.processors i m' hm'
  incoming := rfl
  workers := hw.workers
  threads := hw.threads

/-- The other clients have nothing to do. -/
theorem IsQuiet.stepProcessor?_staged_of_ne (hw : w.IsQuiet) {i : Nat} (hi : i ≠ k) :
    (w.staged k c st p incoming).stepProcessor? i = none :=
  stepProcessor?_of_isIdle fun m hm => by
    rw [getElem?_staged_of_ne hi] at hm
    exact hw.processors i m hm

/-- The processor that has something to do does it. -/
theorem IsQuiet.step?_staged_of_step (hw : w.IsQuiet) (hm : w.members[k]? = some m)
    (h : p.step? (Job.delay? m.client.config.policy.rule w.die c) c = some (a, q)) :
    (w.staged k c st p incoming).step? = some ((w.staged k c st q incoming).act k a) := by
  have hstep : (w.staged k c st p incoming).stepProcessor? k =
      some ((w.staged k c st q incoming).act k a) := by
    rw [stepProcessor?, getElem?_staged hm]
    dsimp only
    rw [clock_staged, die_staged, h]
    dsimp only
    rw [updateMember_staged]
  rw [step?, findSome?_range (List.getElem?_eq_some_iff.mp (getElem?_staged hm)).1 hstep
    fun i hi => hw.stepProcessor?_staged_of_ne hi]

theorem IsQuiet.stepProcessor?_staged (hw : w.IsQuiet) (hm : w.members[k]? = some m)
    (h : p.step? (Job.delay? m.client.config.policy.rule w.die c) c = none) (i : Nat) :
    (w.staged k c st p incoming).stepProcessor? i = none := by
  by_cases hi : i = k
  · subst hi
    rw [stepProcessor?, getElem?_staged hm]
    dsimp only
    rw [clock_staged, die_staged, h]
  · exact hw.stepProcessor?_staged_of_ne hi

/-- If no processor has anything to do, the reply comes in. -/
theorem IsQuiet.step?_staged_of_incoming (hw : w.IsQuiet) (hm : w.members[k]? = some m)
    (hp : p.IsIdle) (r : IncomingReply) :
    (w.staged k c st p [r]).step? = some ((w.staged k c st p []).receive r) := by
  have hnone : ∀ i, (w.staged k c st p [r]).stepProcessor? i = none :=
    hw.stepProcessor?_staged hm (hp.step?_eq_none _ c)
  rw [step?, List.findSome?_eq_none_iff.mpr fun i _ => hnone i]
  rfl

/-- If the processor has to wait, everybody has to. -/
theorem IsQuiet.step?_staged_eq_none (hw : w.IsQuiet) (hm : w.members[k]? = some m)
    (h : p.step? (Job.delay? m.client.config.policy.rule w.die c) c = none) :
    (w.staged k c st p []).step? = none := by
  rw [step?_of_idle (hw.stepProcessor?_staged hm h) rfl, List.findSome?_eq_none_iff]
  exact fun i _ => stepWorker?_of_queue_eq_nil fun x hx => (hw.workers i x hx).1

/-- A list of which one entry has something has just that. -/
theorem filterMap_eq_singleton {α β : Type} {f : α → Option β} {as : List α} {i : Nat} {a : α}
    {b : β} (ha : as[i]? = some a) (hb : f a = some b)
    (hothers : ∀ (j : Nat) (a : α), as[j]? = some a → j ≠ i → f a = none) :
    as.filterMap f = [b] := by
  induction as generalizing i with
  | nil => cases ha
  | cons a' as ih =>
    cases i with
    | zero =>
      obtain rfl : a' = a := by simpa using ha
      have hrest : as.filterMap f = [] := by
        refine List.filterMap_eq_nil_iff.mpr fun x hx => ?_
        obtain ⟨j, hj⟩ := List.mem_iff_getElem?.mp hx
        exact hothers (j + 1) x (by simpa using hj) (Nat.succ_ne_zero j)
      rw [List.filterMap_cons, hb, hrest]
    | succ i =>
      have hfirst : f a' = none := hothers 0 a' rfl (Nat.succ_ne_zero i).symm
      rw [List.filterMap_cons, hfirst]
      refine ih (by simpa using ha) fun j x hj hne => ?_
      exact hothers (j + 1) x (by simpa using hj) (by omega)

/-- The next instant is that of the one processor. -/
theorem IsQuiet.nextDue?_staged (hw : w.IsQuiet) (hm : w.members[k]? = some m) {due : Nat}
    (h : p.nextDue? = some due) : (w.staged k c st p incoming).nextDue? = some due := by
  have hdues : (w.staged k c st p incoming).members.filterMap (fun m => m.processor.nextDue?) =
      [due] := by
    refine filterMap_eq_singleton (getElem?_staged hm) h fun i m' hm' hi => ?_
    rw [getElem?_staged_of_ne hi] at hm'
    exact (hw.processors i m' hm').nextDue?_eq_none
  rw [nextDue?, hdues]
  rfl

/-! ## Attempts -/

/-- A client that need not ask for its root asks for nothing. -/
theorem foreground_ensureRootOnce (hm : w.members[k]? = some m) (hroot : m.client.IsRooted) :
    w.foreground k m ensureRootOnce = (.ok (), w) := by
  have hensured : ensureRootOnce (Tampering.link m.session) m.client (w.store, m.tampering) =
      (.ok (), m.client, w.store, m.tampering) := by
    unfold ensureRootOnce
    split
    · rfl
    · rename_i root hspace
      obtain ⟨hvalid, hensured⟩ := hroot root hspace
      simp only [Ensurer.ensureOnce, Ensurer.ensureBy, Path.check, hvalid, if_true, hensured]
  have hself : ({ w with clock := w.clock + 0, store := w.store } : World).updateMember k
      (fun m' => { m' with client := m.client, tampering := m.tampering }) = w :=
    updateMember_of_eq hm rfl
  simp only [foreground, hensured, List.drop_length, Nat.sub_self, hself]

theorem send_eq (w : World) (k : Nat) (m : Member) (j : Job) :
    w.send k m j =
      { w with
        store := (j.payload.ask m.session w.store).2
        incoming := w.incoming ++ [⟨k, j, (j.payload.ask m.session w.store).1⟩] } := by
  unfold send
  cases j.payload <;> rfl

/-- An attempt asks the store, and the reply is on its way. -/
theorem perform_staged (hm : w.members[k]? = some m) (hroot : m.client.IsRooted)
    (hj : j.decided = none) (hask : j.payload.ask m.session st = (reply, st')) :
    (w.staged k c st p []).perform k j = w.staged k c st' p [⟨k, j.begun c, reply⟩] := by
  have hm' : (w.staged k c st p []).members[k]? = some { m with processor := p } :=
    getElem?_staged hm
  have hroot' : ({ m with processor := p } : Member).client.IsRooted := hroot
  have hstore : (w.staged k c st p []).store = st := rfl
  have hpayload : (j.begun c).payload = j.payload := rfl
  simp only [perform, hm', hj, foreground_ensureRootOnce hm' hroot', send_eq, clock_staged, hstore,
    hpayload, hask]
  rfl

theorem tampered_none (reply : StoreReply) : tampered .none reply = (reply, .none) := by
  rcases reply with (e | a) | (e | as) <;> rfl

/-- A reply that comes in is a message to the processor. -/
theorem receive_staged (hm : w.members[k]? = some m) (htampering : m.tampering = .none)
    (hp : p.accepts) (j : Job) (reply : StoreReply) :
    (w.staged k c st p []).receive ⟨k, j, reply⟩ =
      w.staged k c st (p.push (.completed j reply)) [] := by
  have hm' : (w.staged k c st p []).members[k]? = some { m with processor := p } :=
    getElem?_staged hm
  have hself : (w.staged k c st p []).updateMember k (fun m => { m with tampering := .none }) =
      w.staged k c st p [] := updateMember_of_eq hm' (by simp only [htampering])
  have hholds : Tampering.none.holds = false := rfl
  have hcomplete : p.complete? j reply = some (p.push (.completed j reply)) := if_pos hp
  simp only [receive, hm', htampering, tampered_none, hself, hholds, Bool.false_eq_true, if_false,
    complete, hcomplete, updateMember_staged]

/-- A call whose reply can be told is finished with its event. -/
theorem finish_of_event {t : Thread} {e : Event} (hm : w.members[k]? = some m)
    (he : j.event m.client.space reply = .ok e) : w.finish k t j reply = w.deliver k t j e := by
  simp only [finish, hm, he]

theorem add_two_le_load {as : List Member} (hm : as[k]? = some m) (n : Nat) :
    n + 2 ≤ as.foldl (fun n m => n + Member.load m) n := by
  have hmono (as : List Member) (n : Nat) : n ≤ as.foldl (fun n m => n + Member.load m) n := by
    induction as generalizing n with
    | nil => exact Nat.le_refl n
    | cons m as ih => exact (Nat.le_add_right ..).trans (ih _)
  cases as with
  | nil => cases hm
  | cons m' as =>
    have hload : n + 2 ≤ n + Member.load m' := by
      rw [Member.load]
      omega
    exact hload.trans (hmono as _)

/-- The bound on the work has room for six pieces of work for each fault to come. -/
theorem le_workBound (hm : w.members[k]? = some m) :
    24 * (w.store.faults.length + 2) ≤ w.workBound := by
  have hload := add_two_le_load hm 0
  have hattempts : w.store.faults.length + 2 ≤ w.attemptBound + 1 := by
    rw [attemptBound]
    omega
  rw [workBound]
  refine Nat.mul_le_mul ?_ hattempts
  omega

/-! ## The course of a call -/

/-- A reply comes in and the processor takes it. -/
theorem IsQuiet.leads_of_reply {d : Nat} (hw : w.IsQuiet) (hm : w.members[k]? = some m)
    (htampering : m.tampering = .none)
    (hstep : ((Processor.vacant n).push (.completed j reply)).step?
      (Job.delay? m.client.config.policy.rule w.die c) c = some (a, q))
    (h : Leads reached d ((w.staged k c st q []).act k a) w') :
    Leads reached (d + 2) (w.staged k c st (.vacant n) [⟨k, j, reply⟩]) w' := by
  refine .work (hw.step?_staged_of_incoming hm (Processor.isIdle_vacant n) _) ?_
  rw [receive_staged hm htampering rfl]
  exact .work (hw.step?_staged_of_step hm hstep) h

/-- A parked call is sent again when it is due, if there is room in the bound on the work. -/
theorem IsQuiet.exists_leads_of_parked {d due : Nat} (hw : w.IsQuiet)
    (hm : w.members[k]? = some m) (reply : StoreReply)
    (hreached : reached (w.staged k c st ((Processor.vacant n).park due j reply) []) = false)
    (hdue : c ≤ due) (hd : d + 2 ≤ 24 * (st.faults.length + 2))
    (h : Leads reached d ((w.staged k due st (.vacant (n + 1)) []).perform k j.retried) w') :
    ∃ d', d' ≤ d + 2 ∧
      Leads reached d' (w.staged k c st ((Processor.vacant n).park due j reply) []) w' := by
  have hagain : ((Processor.vacant n).park due j reply).step?
      (Job.delay? m.client.config.policy.rule w.die due) due =
        some (.perform j.retried, .vacant (n + 1)) :=
    Processor.step?_of_due (Nat.le_refl due) n j reply
  have hwork : Leads reached (d + 1)
      (w.staged k due st ((Processor.vacant n).park due j reply) []) w' :=
    .work (hw.step?_staged_of_step hm hagain) h
  -- a wait of no length is over at once
  rcases Nat.eq_or_lt_of_le hdue with rfl | hearly
  · exact ⟨d + 1, Nat.le_succ _, hwork⟩
  · have hnext : ((Processor.vacant n).park due j reply).nextDue? = some due := rfl
    have hbound : 24 * (st.faults.length + 2) ≤
        (w.staged k c st ((Processor.vacant n).park due j reply) []).workBound :=
      le_workBound (getElem?_staged hm)
    refine ⟨d + 2, Nat.le_refl _, .wait ?_ hreached (hw.nextDue?_staged hm hnext)
      (hd.trans hbound) ?_⟩
    · exact hw.step?_staged_eq_none hm (Processor.step?_of_early hearly n j reply)
    · have hclock : max (w.staged k c st ((Processor.vacant n).park due j reply) []).clock due =
          due := Nat.max_eq_right hdue
      rw [hclock]
      exact hwork

/-- **A quiet world follows the course of a call.** -/
theorem IsQuiet.exists_leads_of_course {now : Nat} {ds : List Duration} {e : Option Event}
    (hw : w.IsQuiet) (hm : w.members[k]? = some m) (hroot : m.client.IsRooted)
    (htampering : m.tampering = .none)
    (hrule : ∀ e, m.client.config.policy.rule.retriesOn e → e.isRetryable)
    (h : m.Course w.die j now st ds st' e) (hs : st.isConnected m.session) (hj : j.decided = none)
    (hpassive : j.mode.isPassive) (hticket : j.ticket < w.calls.length)
    (hfresh : w.isDelivered j.ticket = false) (n : Nat) :
    ∃ i w', i ≤ 4 * ds.length + 3 ∧
      Leads (·.isDelivered j.ticket) i ((w.staged k now st (.vacant n) []).perform k j) w' ∧
      w'.IsQuiet ∧ w'.store = st' ∧
      w'.deliveriesOf j.ticket =
        w.deliveriesOf j.ticket ++ e.toList.map fun e => { e with context := j.mode.context } := by
  -- the course takes four pieces of work for each wait, and three for the last attempt
  induction h generalizing n with
  | @done j now st st' reply e hask hdelay hevent =>
    have hm' : (w.staged k now st' (.vacant n) []).members[k]? =
        some { m with processor := .vacant n } := getElem?_staged hm
    have hquiet : (w.staged k now st' (.vacant n) []).IsQuiet :=
      hw.staged hm (Processor.isIdle_vacant n)
    obtain ⟨i, w', hi, hleads, hdelivers⟩ := hquiet.exists_leads_deliver (j := j.begun now) hm'
      hticket hpassive (·.isDelivered j.ticket) (.processor k) e
    refine ⟨i + 2, w', by simpa using hi, ?_, hdelivers.quiet, hdelivers.store,
      hdelivers.deliveries⟩
    rw [perform_staged hm hroot hj hask]
    refine hw.leads_of_reply hm htampering (Processor.step?_of_final hdelay n) ?_
    rw [act, finish_of_event hm' hevent]
    exact hleads
  | @lost j now st st' reply d hask hdelay hlimit =>
    refine ⟨2, w.staged k now st' (Processor.vacant n).die [], by omega, ?_,
      hw.staged hm (Processor.isIdle_die _), rfl, by simp; rfl⟩
    rw [perform_staged hm hroot hj hask]
    exact hw.leads_of_reply hm htampering (Processor.step?_of_overflow hdelay hlimit n) .refl
  | @again j now st st' st'' reply d ds e hask hdelay hlimit h ih =>
    have hst' : (j.payload.ask m.session st).2 = st' := by rw [hask]
    have hs' : st'.isConnected m.session := hst' ▸ Payload.isConnected_ask hs j.payload
    obtain ⟨i, w', hi, hleads, hquiet, hstore, hdeliveries⟩ :=
      ih hs' hj hpassive hticket hfresh (n + 1)
    -- each wait that is left takes a fault that is left
    have hlength := h.length_le hs' hrule
    obtain ⟨i', hi', hparked⟩ := hw.exists_leads_of_parked (c := now) hm reply
      hfresh (Nat.le_add_right now d.nanos) (by omega) hleads
    refine ⟨i' + 2, w', by simp only [List.length_cons]; omega, ?_, hquiet, hstore, hdeliveries⟩
    rw [perform_staged hm hroot hj hask]
    exact hw.leads_of_reply hm htampering (Processor.step?_of_delay hdelay hlimit n) hparked

/-- **Waiting for the event of a call comes to the end of its course.** -/
theorem IsQuiet.await_of_course {now : Nat} {ds : List Duration} {e : Option Event}
    (hw : w.IsQuiet) (hm : w.members[k]? = some m) (hroot : m.client.IsRooted)
    (htampering : m.tampering = .none)
    (hrule : ∀ e, m.client.config.policy.rule.retriesOn e → e.isRetryable)
    (h : m.Course w.die j now st ds st' e) (hs : st.isConnected m.session) (hj : j.decided = none)
    (hpassive : j.mode.isPassive) (hticket : j.ticket < w.calls.length)
    (hfresh : w.isDelivered j.ticket = false)
    (hw' : (w.staged k now st ((Processor.vacant n).push (.submit j)) []).await j.ticket = w') :
    w'.store = st' ∧ w'.deliveriesOf j.ticket =
      w.deliveriesOf j.ticket ++ e.toList.map fun e => { e with context := j.mode.context } := by
  obtain ⟨i, w'', hi, hleads, hquiet, hstore, hdeliveries⟩ :=
    hw.exists_leads_of_course hm hroot htampering hrule h hs hj hpassive hticket hfresh n
  have hstep : ((Processor.vacant n).push (.submit j)).step?
      (Job.delay? m.client.config.policy.rule w.die now) now = some (.perform j, .vacant n) := rfl
  have hfirst : (w.staged k now st ((Processor.vacant n).push (.submit j)) []).step? =
      some ((w.staged k now st (.vacant n) []).act k (.perform j)) :=
    hw.step?_staged_of_step hm hstep
  -- the call is taken from the queue, and then takes its course
  have hstart := Leads.work hfirst hleads
  have hbound : 24 * (st.faults.length + 2) ≤
      (w.staged k now st ((Processor.vacant n).push (.submit j)) []).workBound :=
    le_workBound (getElem?_staged hm)
  have hlength := h.length_le hs hrule
  have hawait := waitUntil_of_leads hstart (Nat.le_trans (by omega) hbound) hquiet.step?_eq_none
    (.inr hquiet.nextDue?_eq_none)
  obtain rfl : w'' = w' := hawait.symm.trans hw'
  exact ⟨hstore, hdeliveries⟩

end World

end Coordination
