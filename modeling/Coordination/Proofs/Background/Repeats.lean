import Coordination.Proofs.Background.Scheduling
import Coordination.Proofs.Client.Repeats
import Coordination.Proofs.Client.Operations

/-!
# Repeats in the background

In the background a call counts the times that it has been parked. That is one less than its
attempts, but not every attempt sends the request: one that finds no root for the namespace is
counted too. So a request may be taken for a repeat when it is sent for the first time, and the
store's refusal for a success.

## Main definitions

* `sendings`, `rootFailures`: how often a request was sent, and how often there was no root for it
* `World.Tallied`: the calls of a world count both

## Main results

* `World.Reached.tallied`: in every world that comes about a call counts both together
* `repeats_of_successes`: a success that is not the store's own answer comes from an earlier
  sending, or, in the background, from an earlier attempt that found no root
-/

namespace Coordination

/-! ## Counting -/

/-- The number of the call that a mark is about. -/
def Mark.ticket : Mark → Nat
  | sent n | unrooted n => n

variable {k n : Nat} {j : Job} {reply : StoreReply} {x y : Item} {marks marks' : List Mark}
  {w w' : World}

/-- How often the request of a call has been sent. -/
def sendings (marks : List Mark) (n : Nat) : Nat := marks.count (.sent n)

/-- How often the request of a call has not been sent because there was no root. -/
def rootFailures (marks : List Mark) (n : Nat) : Nat := marks.count (.unrooted n)

/-- What a job's retries say of what is marked. -/
def Job.IsTallied (marks : List Mark) (j : Job) : Prop :=
  j.retries + 1 = sendings marks j.ticket + rootFailures marks j.ticket

namespace Item

/-- Whether a call has counted its attempts, and has a reply only from the store or for want of a
root. -/
def IsTallied (marks : List Mark) : Item → Prop
  | queued _ j => j.retries = 0 ∧ sendings marks j.ticket = 0 ∧ rootFailures marks j.ticket = 0
  | flying _ j _ => j.IsTallied marks ∧ sendings marks j.ticket ≠ 0
  | answered _ j reply | parked _ j reply =>
    j.IsTallied marks ∧
      (sendings marks j.ticket ≠ 0 ∨ ∃ e, reply = j.payload.refused e ∧ e.isRetryable)
  | handed .. | delivered .. => True

end Item

theorem sendings_append (marks marks' : List Mark) (n : Nat) :
    sendings (marks ++ marks') n = sendings marks n + sendings marks' n :=
  List.count_append

theorem rootFailures_append (marks marks' : List Mark) (n : Nat) :
    rootFailures (marks ++ marks') n = rootFailures marks n + rootFailures marks' n :=
  List.count_append

@[simp] theorem sendings_sent (n : Nat) : sendings [.sent n] n = 1 := by simp [sendings]

@[simp] theorem sendings_unrooted (m n : Nat) : sendings [.unrooted m] n = 0 := by simp [sendings]

@[simp] theorem rootFailures_sent (m n : Nat) : rootFailures [.sent m] n = 0 := by
  simp [rootFailures]

@[simp] theorem rootFailures_unrooted (n : Nat) : rootFailures [.unrooted n] n = 1 := by
  simp [rootFailures]

theorem Item.Ends.isTallied (h : x.Ends k j) (marks : List Mark) : x.IsTallied marks := by
  cases h <;> trivial

/-- An attempt is one more. -/
theorem Attempt.isTallied (h : Attempt k j marks' x)
    (hj : j.retries = sendings marks j.ticket + rootFailures marks j.ticket) :
    x.IsTallied (marks ++ marks') := by
  cases h with
  | sent =>
    simp only [Item.IsTallied, Job.IsTallied, Job.begun, sendings_append, rootFailures_append,
      sendings_sent, rootFailures_sent]
    omega
  | unrooted he =>
    refine ⟨?_, .inr ⟨_, rfl, he⟩⟩
    simp only [Job.IsTallied, Job.begun, sendings_append, rootFailures_append, sendings_unrooted,
      rootFailures_unrooted]
    omega
  | ended _ hx => exact hx.isTallied _

/-- A call goes on counting. -/
theorem Advance.isTallied (h : Advance x marks' y) (hx : x.IsTallied marks) :
    y.IsTallied (marks ++ marks') := by
  cases h with
  | first h =>
    obtain ⟨hretries, hsent, hunrooted⟩ := hx
    exact h.isTallied (by omega)
  | again h => exact h.isTallied hx.1
  | held => exact (List.append_nil marks).symm ▸ hx
  | returned => exact (List.append_nil marks).symm ▸ ⟨hx.1, .inl hx.2⟩
  | parked => exact (List.append_nil marks).symm ▸ hx
  | cut h | settled h | given h => exact h.isTallied _
  | delivered => trivial

/-- What a step of one call marks is about this call. -/
theorem Advance.ticket_of_mem {mark : Mark} (h : Advance x marks y) (hmark : mark ∈ marks) :
    mark.ticket = x.ticket := by
  have hattempt {k : Nat} {j : Job} (h : Attempt k j marks y) : mark.ticket = j.ticket := by
    cases h with
    | sent | unrooted => exact List.mem_singleton.mp hmark ▸ rfl
    | ended hmarks =>
      rcases hmarks with rfl | rfl
      · cases hmark
      · exact List.mem_singleton.mp hmark ▸ rfl
  cases h with
  | first h => exact hattempt h
  | again h =>
    have hmark := hattempt h
    exact hmark
  | held | returned | parked | cut | settled | given | delivered => cases hmark

/-- What is marked of other calls does not count. -/
theorem Item.IsTallied.append (hx : x.IsTallied marks)
    (h : ∀ mark ∈ marks', mark.ticket ≠ x.ticket) : x.IsTallied (marks ++ marks') := by
  have hsent : sendings marks' x.ticket = 0 := List.count_eq_zero.mpr fun hmem => h _ hmem rfl
  have hunrooted : rootFailures marks' x.ticket = 0 :=
    List.count_eq_zero.mpr fun hmem => h _ hmem rfl
  cases x with
  | queued | flying | answered | parked =>
    simp only [ticket] at hsent hunrooted
    simpa only [IsTallied, Job.IsTallied, sendings_append, rootFailures_append, hsent, hunrooted,
      Nat.add_zero] using hx
  | handed | delivered => trivial

namespace World

/-- Whether the calls of a world have counted their attempts, and nothing is marked of calls to
come. -/
structure Tallied (marks : List Mark) (w : World) : Prop where
  /-- Each call has counted its attempts. -/
  items : ∀ x ∈ w.items, x.IsTallied marks
  /-- Nothing is marked of calls to come. -/
  marks : ∀ mark ∈ marks, mark.ticket < w.calls.length

theorem Tallied.of_moves (ht : w.Tallied marks) (hw : w.Accounted) (h : w.Moves marks' w') :
    w'.Tallied (marks ++ marks') := by
  cases h.changes with
  | stay hcalls hitems =>
    rw [List.append_nil]
    exact ⟨fun x hx => ht.items x (hitems ▸ hx), fun mark hmark => hcalls ▸ ht.marks mark hmark⟩
  | @advance _ _ x y rest hcalls hbefore hafter h =>
    have hx : x ∈ w.items := hbefore ▸ Multiset.mem_cons_self ..
    refine ⟨fun z hz => ?_, fun mark hmark => ?_⟩
    · rw [hafter, Multiset.mem_cons] at hz
      rcases hz with rfl | hz
      · exact h.isTallied (ht.items x hx)
      · -- the others have other numbers
        have hne : z.ticket ≠ x.ticket := by
          have hnodup : (w.items.map Item.ticket).Nodup := hw.tickets ▸ Multiset.nodup_range _
          rw [hbefore, Multiset.map_cons, Multiset.nodup_cons] at hnodup
          exact fun heq => hnodup.1 (heq ▸ Multiset.mem_map_of_mem _ hz)
        have hz' : z ∈ w.items := hbefore ▸ Multiset.mem_cons_of_mem hz
        exact (ht.items z hz').append fun mark hmark => h.ticket_of_mem hmark ▸ hne.symm
    · rw [hcalls]
      rcases List.mem_append.mp hmark with hmark | hmark
      · exact ht.marks mark hmark
      · exact h.ticket_of_mem hmark ▸ hw.ticket_lt hx
  | @accept _ k payload mode decided hcalls _ _ hitems =>
    rw [List.append_nil]
    have hnew (f : Nat → Mark) (hf : ∀ n, (f n).ticket = n) : marks.count (f w.calls.length) = 0 :=
      List.count_eq_zero.mpr fun hmem => by
        have hlt := ht.marks _ hmem
        rw [hf] at hlt
        exact Nat.lt_irrefl _ hlt
    refine ⟨fun x hx => ?_, fun mark hmark => ?_⟩
    · rw [hitems, Multiset.mem_cons] at hx
      rcases hx with rfl | hx
      · exact ⟨rfl, hnew .sent fun _ => rfl, hnew .unrooted fun _ => rfl⟩
      · exact ht.items x hx
    · rw [hcalls]
      exact Nat.lt_succ_of_lt (ht.marks mark hmark)

/-- **Every call has counted its attempts.** -/
theorem Reached.tallied (h : Reached marks w) : w.Tallied marks := by
  induction h with
  | refl =>
    exact ⟨fun x hx => by simp [World.items, initial, gather] at hx,
      fun mark hmark => by cases hmark⟩
  | tail h h' ih =>
    have hw := Reached.accounted h
    exact ih.of_moves hw (hw.step h')

end World

/-! ## Successes -/

/-- An answer that stands in for a refusal is a success. -/
theorem Job.isOk_answered_of_replayed {r : Request} {e : StoreError} {a : Answer} {event : Event}
    (h : r.replayed? e = some a) (hevent : event.isOk) (n : Namespace) :
    (answered n event (.ok a)).isOk := by
  unfold Request.replayed? at h
  repeat' split at h
  all_goals
    cases h
  all_goals exact hevent

/-- A call that ends with a refusal succeeds just if the refusal shows its request to have been
applied, and the call has counted an attempt before. -/
theorem Job.event_of_refusal {r : Request} {path : String} {e : StoreError}
    (hpayload : j.payload = .single r path) (n : Namespace) :
    ∃ event, j.event n (.single (.error e)) = .ok event ∧
      (event.isOk ↔ (r.replayed? e).isSome ∧ j.retries ≠ 0) := by
  have hbare : (Event.bare j.payload.type j.payload.path?).isOk := rfl
  refine ⟨answered n (.bare j.payload.type j.payload.path?) (r.settled j.retries (.error e)),
    ?_, ?_⟩
  · simp only [event, hpayload]
  · by_cases hretries : j.retries = 0
    · simp [Request.settled, hretries, answered, Event.isOk]
    · cases hreplayed : r.replayed? e with
      | none => simp [Request.settled, hretries, hreplayed, answered, Event.isOk]
      | some a =>
        simpa [Request.settled, hretries, hreplayed] using
          isOk_answered_of_replayed hreplayed hbare n

/-- The reply that a call has come back with. -/
def Item.reply? : Item → Option (Job × StoreReply)
  | flying _ j reply | answered _ j reply | parked _ j reply => some (j, reply)
  | _ => none

/-- A call whose reply shows its request to have been applied has sent the request. -/
theorem Item.IsTallied.of_reply {r : Request} {path : String} {e : StoreError}
    (hx : x.IsTallied marks) (hreply : x.reply? = some (j, .single (.error e)))
    (hpayload : j.payload = .single r path) :
    j.IsTallied marks ∧ ((r.replayed? e).isSome → sendings marks j.ticket ≠ 0) := by
  -- for want of a root there would be an error that is worth a retry
  have hrefused {e' : StoreError} (h : StoreReply.single (.error e) = j.payload.refused e')
      (he : e'.isRetryable) : r.replayed? e = none := by
    rw [hpayload] at h
    cases h
    exact Request.replayed?_eq_none he
  cases x with
  | flying =>
    cases hreply
    exact ⟨hx.1, fun _ => hx.2⟩
  | answered | parked =>
    cases hreply
    refine ⟨hx.1, fun hsome => ?_⟩
    rcases hx.2 with hsent | ⟨e', he', hretryable⟩
    · exact hsent
    · rw [hrefused he' hretryable] at hsome
      cases hsome
  | queued | handed | delivered => cases hreply

/-- **What is taken for a repeat.** In the foreground, over any link, an operation that succeeds
without an answer has sent its request before, and an error of the first sending is reported unless
the policy asks for another one. In the background, in whatever order things happen, a call that
ends with a refusal is reported to have succeeded just if the refusal shows the request to have been
applied and the request has been sent at least twice, or else has been sent once and found no root
for the namespace before. -/
theorem repeats_of_successes {σ : Type} (link : Link σ) (c : Client) (o : Operation) (s : σ)
    (marks : List Mark) (w : World) :
    ((∀ a, (c.execute link o s).1 = .ok a →
        ∃ r n s₁ answer, c.prepare o = .ok r ∧
          Client.Submitted link r n (c.ensureRoot link s).2.2 s₁ ∧
          a = Client.reported c.space answer ∧
          ((link.submit s₁ r).1 = .ok answer ∨
            ∃ e, (link.submit s₁ r).1 = .error e ∧ r.replayed? e = some answer ∧ 1 ≤ n)) ∧
      ∀ r e, c.closed = false → c.prepare o = .ok r → (c.ensureRoot link s).1 = .ok () →
        (link.submit (c.ensureRoot link s).2.2 r).1 = .error e →
        c.config.policy.retriesOn e = false → (c.execute link o s).1 = .error (.store e)) ∧
    (World.Reached marks w → ∀ x ∈ w.items, ∀ j r path e,
      x.reply? = some (j, .single (.error e)) → j.payload = .single r path → ∀ n : Namespace,
        ∃ event, j.event n (.single (.error e)) = .ok event ∧
          (event.isOk ↔ (r.replayed? e).isSome ∧
            (2 ≤ sendings marks j.ticket ∨
              sendings marks j.ticket = 1 ∧ 1 ≤ rootFailures marks j.ticket))) := by
  refine ⟨⟨fun a h => Client.exists_submitted_of_execute h, ?_⟩, ?_⟩
  · intro r e hopen hr hroot he hfinal
    exact Client.execute_of_first_error hopen hr hroot he hfinal
  · intro hw x hx j r path e hreply hpayload n
    obtain ⟨htallied, hsent⟩ := (hw.tallied.items x hx).of_reply hreply hpayload
    obtain ⟨event, hevent, hok⟩ := Job.event_of_refusal (e := e) hpayload n
    refine ⟨event, hevent, hok.trans (and_congr_right fun hsome => ?_)⟩
    -- a call counts as many retries as it has made attempts before the last one
    have hsome' := hsent hsome
    unfold Job.IsTallied at htallied
    omega

/-! ## A request that is taken for a repeat -/

namespace World

/-- A client of a namespace whose root it has not ensured. -/
def lodger : Member :=
  { session := ⟨1, []⟩
    tampering := .none
    client :=
      { config := { Config.trial with space := some "svc" }
        space := ⟨some "/svc"⟩
        rootEnsurer := .ofConfig { Config.trial with space := some "svc" } .whole
        ensurer := .ofConfig { Config.trial with space := some "svc" } ⟨some "/svc"⟩
        closed := false
        sleeps := [] }
    processor := .initial
    held := []
    eventListeners := []
    errorListeners := [] }

/-- A world with the client, in which the root is there and somebody else's node below it. The next
request will be lost. -/
def lodging : World :=
  { initial with
    store := Store.Move.run .initial
      [.connect [], .submit ⟨1, []⟩ (.create "/svc" ByteArray.empty .worldOpen .persistent),
        .submit ⟨1, []⟩ (.create "/svc/x" "theirs".toUTF8 .worldOpen .persistent),
        .failNext .connectionLoss 1]
    members := [lodger] }

/-- What the client sends to have a node under the same path. -/
def claimed : Payload :=
  .single (.create "/svc/x" "mine".toUTF8 .worldOpen .persistent) "/x"

/-- The world with the call. -/
def claiming : World := (lodging.enqueue 0 lodger claimed .inBackground).2

/-- The world in which the root could not be ensured and the call has waited. -/
def delayed : World := { settleFor 2 claiming with clock := (Duration.ofMillis 1).nanos }

/-- The client may start over any store. -/
theorem reached_lodger (store : Store) :
    Reached [] { initial with store, members := [lodger] } := by
  have hoccupied : initial.Step [] { initial with store } :=
    .elsewhere ⟨Nat.le_refl _, rfl, rfl, rfl, rfl⟩
  have hclient : Client.start { Config.trial with space := some "svc" } = .ok lodger.client := by
    have hspace : Namespace.ofName "svc" = .ok ⟨some "/svc"⟩ := by decide +kernel
    simp only [Client.start, Config.validate, hspace]
    rfl
  refine (Steps.refl.tail hoccupied).tail (.start (s := ⟨1, []⟩) (t := .none) (k := 0)
    (c := { Config.trial with space := some "svc" }) ?_)
  rw [World.start, hclient]
  rfl

theorem reached_claiming : Reached [] claiming := by
  have hcalled : lodging.Step [] claiming := .accept (k := 0) (n := 0) (m := lodger) rfl rfl
  exact (reached_lodger lodging.store).tail hcalled

theorem reached_delayed {n : Nat} (hn : n ≤ 4) :
    Reached (settleMarks 2 claiming ++ settleMarks n delayed) (settleFor n delayed) := by
  have hparked := steps_settleFor_of_nTimes 2 claiming 5 (.ofMillis 1) (by decide +kernel)
  have hwaited : (settleFor 2 claiming).Step [] delayed :=
    .elsewhere ⟨by decide +kernel, rfl, rfl, rfl, rfl⟩
  have htimely : ∀ i < 4, (∀ m ∈ (settleFor i delayed).members,
      m.client.config.policy = .nTimes 5 (.ofMillis 1)) ∧
        (settleFor i delayed).clock + (Duration.ofMillis 1).nanos < Processor.instantLimit := by
    decide +kernel
  have hended := steps_settleFor_of_nTimes n delayed 5 (.ofMillis 1) fun i hi =>
    htimely i (Nat.lt_of_lt_of_le hi hn)
  have hreached := ((reached_claiming.trans hparked).tail hwaited).trans hended
  rwa [List.nil_append, List.append_nil] at hreached

/-- The request is sent once, the store refuses it because of the node that was there before, and
the call is reported to have succeeded. -/
theorem success_of_first_sending :
    ∃ marks, Reached marks (settleFor 4 delayed) ∧ sendings marks 0 = 1 ∧
      rootFailures marks 0 = 1 ∧
      (lodging.store.tree.nodes["/svc/x"]?).map (·.data) = some "theirs".toUTF8 ∧
      (settleFor 4 delayed).store.tree = lodging.store.tree ∧
      ((settleFor 4 delayed).calls[0]?).map (·.deliveries) =
        some [{ Event.bare .create (some "/x") with name := some "/x" }] := by
  refine ⟨_, reached_delayed (Nat.le_refl _), ?_, ?_, ?_, ?_, ?_⟩
  all_goals decide +kernel

deriving instance DecidableEq for StoreReply, Message

/-- The call when it has come back from the store. -/
def returned : Job :=
  { ticket := 0, payload := claimed, mode := .inBackground, decided := none, retries := 1,
    started := some 0 }

theorem mem_items_of_delayed :
    .answered 0 returned (.single (.error (.refused .nodeExists (some "/svc/x")))) ∈
      (settleFor 2 delayed).items := by
  have hqueue : ((settleFor 2 delayed).members[0]?).map (·.processor.queue) =
      some [.completed returned (.single (.error (.refused .nodeExists (some "/svc/x"))))] := by
    decide +kernel
  obtain ⟨m, hm, hmqueue⟩ := Option.map_eq_some_iff.mp hqueue
  simp only [items, Multiset.mem_add, mem_gather]
  refine .inl (.inl (.inl ⟨0, m, hm, ?_⟩))
  simp [Member.items, Processor.items, hmqueue, Processor.queueItems, Message.items]

/-- The store when the operation has been run, without faults. -/
def taken : Store :=
  (Client.tenant.execute (Store.link ⟨1, []⟩) Client.presence
    { Client.lossy with faults := [] }).2.2

/-- An operation whose requests and answers were lost, one that finds its node taken, and the call
that is taken for a repeat. -/
theorem repeats_of_lossy_and_delayed :
    (∃ r n s₁ answer, Client.tenant.prepare Client.presence = .ok r ∧
      Client.Submitted (Store.link ⟨1, []⟩) r n Client.lossy s₁ ∧
      Answer.created "/here" none = Client.reported ⟨some "/svc"⟩ answer ∧
      (((Store.link ⟨1, []⟩).submit s₁ r).1 = .ok answer ∨
        ∃ e, ((Store.link ⟨1, []⟩).submit s₁ r).1 = .error e ∧ r.replayed? e = some answer ∧
          1 ≤ n)) ∧
    (Client.tenant.execute (Store.link ⟨1, []⟩) Client.presence taken).1 =
      .error (.store (.refused .nodeExists (some "/svc/here"))) ∧
    ∃ marks event, Reached marks (settleFor 2 delayed) ∧
      returned.event ⟨some "/svc"⟩ (.single (.error (.refused .nodeExists (some "/svc/x")))) =
        .ok event ∧ event.isOk := by
  have hreached : Reached _ (settleFor 2 delayed) := reached_delayed (by decide)
  obtain ⟨⟨hsucceeds, -⟩, hrefused⟩ := repeats_of_successes (Store.link ⟨1, []⟩) Client.tenant
    Client.presence Client.lossy _ (settleFor 2 delayed)
  obtain ⟨⟨-, hfails⟩, -⟩ := repeats_of_successes (Store.link ⟨1, []⟩) Client.tenant
    Client.presence taken [] initial
  refine ⟨?_, ?_, ?_⟩
  · have hsuccess : (Client.tenant.execute (Store.link ⟨1, []⟩) Client.presence Client.lossy).1 =
        .ok (.created "/here" none) := by
      decide +kernel
    exact hsucceeds _ hsuccess
  · exact hfails (Client.tenant.request Client.presence) _ rfl (by decide +kernel)
      (by decide +kernel) (by decide +kernel) (by decide +kernel)
  · obtain ⟨event, hevent, hok⟩ :=
      hrefused hreached _ mem_items_of_delayed returned _ _ _ rfl rfl ⟨some "/svc"⟩
    exact ⟨_, event, hreached, hevent, hok.mpr (by decide +kernel)⟩

end World

end Coordination
