import Coordination.Proofs.Background.Constancy
import Coordination.Proofs.Background.Course
import Coordination.Proofs.Background.ExactlyOnce
import Coordination.Proofs.Background.Repeats

/-!
# The fates of calls

What a step makes of a given background call, when the call's client need not ask for its root and
is told what the store says. Then each attempt at the call asks the store, the reply that the store
gives is the one that comes in, and the event of the call is what its last reply comes to. A call is
sent again only while its processor runs.

## Main definitions

* `Member.Attends`: a client that is told what the store says
* `Job.Tried`: what an attempt makes of a call
* `World.Fares`: what a step makes of a call
* `World.Asked`, `World.Says`: the world in which the store is last asked for a call, and its reply
* `Item.Keeps`: whether the reply that a call has had is of a kind

## Main results

* `World.Accounted.fares`: what a step makes of each call of such a client
* `World.Runs.keeps`: the reply that a call has had is what the store said last
* `World.Runs.settles`: what becomes of a call when its processor is not running any more
-/

namespace Coordination

/-- Whether a client need not ask for its root, and is told what the store says. -/
structure Member.Attends (m : Member) : Prop where
  /-- There is no root, or it has been ensured. -/
  rooted : m.client.IsRooted
  /-- The line to the store hands on all answers. -/
  faithful : m.tampering.IsFaithful

theorem Member.Lasts.attends {m m' : Member} (h : m.Lasts m') (hm : m.Attends) : m'.Attends :=
  ⟨h.rooted hm.rooted, h.faithful hm.faithful⟩

/-- What an attempt at a job makes of it, if the store says `reply`. -/
inductive Job.Tried (k : Nat) (j : Job) (now : Nat) (reply : StoreReply) : List Mark → Item → Prop
  /-- The store is asked. -/
  | sent (h : j.decided = none) :
      Tried k j now reply [.sent j.ticket] (.flying k (j.begun now) reply)
  /-- The event was known before. -/
  | told {e : Event} {x : Item} (h : j.decided = some e) (hx : x.EndsWith k j e) :
      Tried k j now reply [] x

theorem Job.Tried.attempt {k : Nat} {j : Job} {now : Nat} {reply : StoreReply} {marks : List Mark}
    {x : Item} (h : j.Tried k now reply marks x) (hj : j.IsHonest) : Attempt k j marks x := by
  cases h with
  | sent => exact .sent
  | told h hx => exact .ended (.inl rfl) (hx.ends (hj _ h))

/-! ## Events -/

/-- A session that is connected is told that it has expired only by a fault. -/
theorem Payload.exists_fault_of_ask {p : Payload} {s : Session} {st : Store} {e : StoreError}
    (hs : st.isConnected s) (h : (p.ask s st).1.error? = some e) (he : e.code = .sessionExpired) :
    ∃ f ∈ st.faults, f.code = .sessionExpired := by
  cases p with
  | single r path => exact Store.exists_fault_of_submit hs (Payload.error?_ask_single.mp h) he
  | batch b => exact Store.exists_fault_of_multi hs (Payload.error?_ask_batch.mp h) he

namespace Job

variable {j : Job} {s : Session} {st : Store} {e : StoreError} {code : ErrorCode}

/-- **A call whose last attempt was refused fails with the code of the refusal**, unless the refusal
shows that an earlier attempt had done its work. -/
theorem code_outcome_of_refused (h : (j.payload.ask s st).1.error? = some e) (n : Namespace) :
    (j.outcome n (j.payload.ask s st).1).code = some e.code ∨
      (j.outcome n (j.payload.ask s st).1).isOk ∧ j.retries ≠ 0 ∧
        ∃ r path, j.payload = .single r path ∧ (r.replayed? e).isSome := by
  cases hpayload : j.payload with
  | single r path =>
    rw [hpayload, Payload.error?_ask_single] at h
    have hask : ((Payload.single r path).ask s st).1 = .single (.error e) := by
      rw [Payload.ask, h]
    rw [hask]
    simp only [outcome, event, hpayload]
    unfold Request.settled
    dsimp only
    by_cases hretries : j.retries = 0
    · rw [if_pos hretries]
      exact .inl rfl
    · rw [if_neg hretries]
      cases hreplayed : r.replayed? e with
      | none => exact .inl rfl
      | some a =>
        have hsome : (r.replayed? e).isSome := Option.isSome_iff_exists.mpr ⟨a, hreplayed⟩
        exact .inr ⟨isOk_answered_of_replayed hreplayed rfl n, hretries, r, path, rfl, hsome⟩
  | batch b =>
    rw [hpayload, Payload.error?_ask_batch] at h
    have hask : ((Payload.batch b).ask s st).1 = .batch (.error e) := by
      rw [Payload.ask, h]
    rw [hask]
    cases e with
    | aborted index code answers =>
      obtain ⟨os, hos⟩ := Batch.exists_outcomes_of_aborted n h
      simp only [outcome, event, hpayload, hos]
      exact .inl rfl
    | refused | closed =>
      simp only [outcome, event, hpayload]
      exact .inl trivial

/-- A call fails with the code of its last refusal, or because the store's answer makes no sense. -/
theorem exists_error_of_code (n : Namespace)
    (h : (j.outcome n (j.payload.ask s st).1).code = some code)
    (hcode : code ≠ .runtimeInconsistency) :
    ∃ e, (j.payload.ask s st).1.error? = some e ∧ e.code = code := by
  cases herror : (j.payload.ask s st).1.error? with
  | some e =>
    rcases code_outcome_of_refused herror n with hcode | ⟨hok, -⟩
    · rw [hcode] at h
      exact ⟨e, rfl, Option.some.inj h⟩
    · rw [Event.isOk, h] at hok
      cases hok
  | none =>
    exfalso
    cases hpayload : j.payload with
    | single r path =>
      rw [hpayload] at herror h
      cases hsubmit : (st.submit s r).1 with
      | error e =>
        rw [Payload.error?_ask_single.mpr hsubmit] at herror
        cases herror
      | ok a =>
        have hfailed : ∀ c, a ≠ .failed c := Store.ne_failed_of_submit hsubmit
        simp only [Payload.ask, hsubmit, outcome, event, hpayload, Request.settled] at h
        cases a with
        | failed c => exact hfailed c rfl
        | _ => cases h
    | batch b =>
      rw [hpayload] at herror h
      cases hmulti : (st.multi s b.requests).1 with
      | error e =>
        rw [Payload.error?_ask_batch.mpr hmulti] at herror
        cases herror
      | ok answers =>
        simp only [Payload.ask, hmulti, outcome, event, hpayload] at h
        cases hos : b.outcomes n answers with
        | ok os =>
          rw [hos] at h
          cases h
        | error f =>
          rw [hos] at h
          exact hcode (Option.some.inj h).symm

end Job

/-! ## Calls on their way -/

/-- Whether an event is what some reply to a call comes to. -/
def Call.EndsBy (c : Call) (n : Namespace) (R : StoreReply → Prop) (e : Event) : Prop :=
  ∃ j reply, Job.call c.client j = c ∧ R reply ∧ e = (j.delivery (j.outcome n reply)).event

namespace Item

variable {k : Nat} {j : Job} {c : Call} {n : Namespace} {R R' : StoreReply → Prop} {x y : Item}
  {reply : StoreReply} {e : Event}

/-- Whether an item is new in the queue of a processor. -/
def isQueued : Item → Bool
  | queued .. => true
  | _ => false

/-- Whether a call is not with its processor: it is at the store or on its way from there, or on its
way to its caller or there. -/
def isOut : Item → Bool
  | flying .. | handed .. | delivered .. => true
  | _ => false

/-- The event that a call has come to. -/
def event? : Item → Option Event
  | handed _ d => some d.event
  | delivered _ e => some e
  | _ => none

/-- Whether a call was to be sent, and whatever reply it has had is of a kind. -/
def Keeps (c : Call) (n : Namespace) (R : StoreReply → Prop) : Item → Prop
  | queued _ j => j.decided = none
  | flying _ j reply | answered _ j reply | parked _ j reply => j.decided = none ∧ R reply
  | handed _ d => c.EndsBy n R d.event
  | delivered _ e => c.EndsBy n R e

theorem Keeps.mono (hx : x.Keeps c n R) (hR : ∀ reply, R reply → R' reply) : x.Keeps c n R' := by
  have hends {e : Event} : c.EndsBy n R e → c.EndsBy n R' e :=
    fun ⟨j, reply, hj, hreply, he⟩ => ⟨j, reply, hj, hR _ hreply, he⟩
  cases x with
  | queued => exact hx
  | flying | answered | parked => exact ⟨hx.1, hR _ hx.2⟩
  | handed | delivered => exact hends hx

theorem Keeps.endsBy (hx : x.Keeps c n R) (he : x.event? = some e) : c.EndsBy n R e := by
  cases x with
  | handed | delivered => exact Option.some.inj he ▸ hx
  | _ => cases he

/-- A call that has left its processor has had a reply. -/
theorem Keeps.exists_reply (hx : x.Keeps c n R) (hout : x.isOut) : ∃ reply, R reply := by
  cases x with
  | flying _ _ reply => exact ⟨reply, hx.2⟩
  | handed | delivered =>
    obtain ⟨_, reply, _, hreply, _⟩ := hx
    exact ⟨reply, hreply⟩
  | _ => cases hout

theorem EndsWith.keeps (hx : x.EndsWith k j (j.outcome n reply)) (hreply : R reply) :
    x.Keeps (j.call k) n R := by
  rcases hx with rfl | rfl
  · exact ⟨j, reply, rfl, hreply, rfl⟩
  · exact ⟨j, reply, rfl, hreply, rfl⟩

theorem EndsWith.isQueued_eq_false (hx : x.EndsWith k j e) : x.isQueued = false := by
  rcases hx with rfl | rfl <;> rfl

end Item

namespace World

variable {w w' : World} {i k : Nat} {m m' : Member} {marks : List Mark} {x y z : Item} {a : Action}
  {j : Job} {c : Call}

/-- **What a step of a world makes of a call** of a client. -/
inductive Fares (w : World) (k : Nat) (m : Member) : Item → List Mark → Item → Prop
  /-- It is attempted for the first time. -/
  | first {j : Job} {marks : List Mark} {y : Item}
      (h : j.Tried k w.clock (j.payload.ask m.session w.store).1 marks y) :
      Fares w k m (.queued k j) marks y
  /-- It is attempted again. -/
  | again {j : Job} {reply : StoreReply} {marks : List Mark} {y : Item}
      (hphase : m.processor.phase = .running)
      (h : j.retried.Tried k w.clock (j.payload.ask m.session w.store).1 marks y) :
      Fares w k m (.parked k j reply) marks y
  /-- Its reply comes in. -/
  | met {j : Job} {reply : StoreReply} {y : Item} (h : y.Meets m.client.space k j reply) :
      Fares w k m (.flying k j reply) [] y
  /-- It has to wait. -/
  | parked {j : Job} {reply : StoreReply} :
      Fares w k m (.answered k j reply) [] (.parked k j reply)
  /-- It ends with the reply that it came back with. -/
  | settled {j : Job} {reply : StoreReply} {y : Item}
      (h : y.EndsWith k j (j.outcome m.client.space reply)) :
      Fares w k m (.answered k j reply) [] y
  /-- It ends with the last reply that it had. -/
  | given {j : Job} {reply : StoreReply} {y : Item}
      (h : y.EndsWith k j (j.outcome m.client.space reply)) :
      Fares w k m (.parked k j reply) [] y
  /-- Its event is delivered. -/
  | delivered {d : Delivery} : Fares w k m (.handed k d) [] (.delivered d.ticket d.event)

/-! ## One call among others -/

/-- A call is in one place. -/
theorem Accounted.eq_of_ticket_eq (hw : w.Accounted) (hx : x ∈ w.items) (hz : z ∈ w.items)
    (h : x.ticket = z.ticket) : x = z := by
  have hmem : z ∈ w.placesOf x.ticket := Multiset.mem_filter.mpr ⟨hz, h.symm⟩
  rw [hw.placesOf_eq hx] at hmem
  exact (Multiset.mem_singleton.mp hmem).symm

/-- If one call gets to another place, all others stay where they are. -/
theorem Accounted.fares_of_carries (hw : w.Accounted) (h : w.Carries z y w')
    (hmarks : ∀ mark ∈ marks, mark.ticket = z.ticket) (hfares : x = z → w.Fares k m x marks y)
    (hx : x ∈ w.items) :
    ∃ y ∈ w'.items, (y = x ∧ ∀ mark ∈ marks, mark.ticket ≠ x.ticket) ∨ w.Fares k m x marks y := by
  obtain ⟨rest, hbefore, hafter⟩ := h.items
  by_cases hxz : x = z
  · exact ⟨y, hafter ▸ Multiset.mem_cons_self .., .inr (hfares hxz)⟩
  · have hmem : x ∈ rest := by
      rw [hbefore, Multiset.mem_cons] at hx
      exact hx.resolve_left hxz
    refine ⟨x, hafter ▸ Multiset.mem_cons_of_mem hmem, .inl ⟨rfl, fun mark hmark heq => hxz ?_⟩⟩
    refine hw.eq_of_ticket_eq hx ?_ (heq.symm.trans (hmarks mark hmark))
    exact hbefore ▸ Multiset.mem_cons_self ..

theorem fares_of_stays (h : w.Stays w') (hx : x ∈ w.items) :
    ∃ y ∈ w'.items, (y = x ∧ ∀ mark ∈ ([] : List Mark), mark.ticket ≠ x.ticket) ∨
      w.Fares k m x [] y :=
  ⟨x, h.items ▸ hx, .inl ⟨rfl, by simp⟩⟩

/-! ## Attempts -/

/-- **An attempt at a call** of a client that attends to it. -/
theorem Sound.exists_adds_try (hw : w.Sound) (hm : w.members[k]? = some m)
    (hj : j.ticket < w.calls.length) (hhonest : j.IsHonest) :
    ∃ y, (m.Attends → j.Tried k w.clock (j.payload.ask m.session w.store).1
        (w.marks k (.perform j)) y) ∧
      (∀ mark ∈ w.marks k (.perform j), mark.ticket = j.ticket) ∧ w.Adds (w.perform k j) {y} := by
  by_cases hattends : m.Attends
  · unfold perform marks
    cases hdecided : j.decided with
    | some e =>
      obtain ⟨y, hy, hadds⟩ := exists_adds_deliver hw (List.getElem?_eq_some_iff.mp hm).1 hj
        (.processor k) e
      simp only [hm, hdecided]
      exact ⟨y, fun _ => .told hdecided hy, by simp, hadds⟩
    | none =>
      simp only [hm, hdecided, foreground_ensureRootOnce hm hattends.rooted, send_eq]
      exact ⟨_, fun _ => .sent hdecided, by simp [Mark.ticket], adds_incoming hw _ ⟨k, _, _⟩⟩
  · obtain ⟨y, hy, hadds⟩ := exists_adds_perform hw (List.getElem?_eq_some_iff.mp hm).1 hj hhonest
    exact ⟨y, fun h => absurd h hattends,
      fun mark hmark => (Advance.first hy).ticket_of_mem hmark, hadds⟩

/-- A processor that is not running any more sends only what is new. -/
theorem items_of_perform {p p' : Processor} {delay? : Job → StoreReply → Option Duration}
    {now : Nat} (hphase : p.phase ≠ .running) (h : p.step? delay? now = some (.perform j, p')) :
    p.items k = .queued k j ::ₘ p'.items k := by
  unfold Processor.step? at h
  split at h
  · exact absurd (by assumption) hphase
  · split at h
    · rename_i message queue hqueue
      cases message with
      | submit j =>
        cases h
        exact Processor.items_of_queue hqueue k
      | completed | shutdown => cases h
    · split at h <;> cases h
  · cases h
  · cases h

/-- What a processor is about to do is done for one of its calls. -/
theorem Accounted.fares_act {p : Processor} (hw : w.Accounted) (hm : w.members[i]? = some m')
    (hp : p.Sound) (hgate : p.gateOpen = m'.processor.gateOpen)
    (hturn : Turn i a (m'.processor.items i) (p.items i))
    (hphase : m'.processor.phase = .running ∨
      ∀ j, a = .perform j → m'.processor.items i = .queued i j ::ₘ p.items i)
    (hx : x ∈ w.items) (hown : ∀ z ∈ m'.processor.items i, x = z → i = k ∧ m' = m)
    (hattends : m.Attends) :
    ∃ y ∈ ((w.updateMember i fun m => { m with processor := p }).act i a).items,
      (y = x ∧ ∀ mark ∈ (w.updateMember i fun m => { m with processor := p }).marks i a,
        mark.ticket ≠ x.ticket) ∨
      w.Fares k m x ((w.updateMember i fun m => { m with processor := p }).marks i a) y := by
  have hsound : (w.updateMember i fun m => { m with processor := p }).Sound :=
    hw.sound.updateMember hm hp fun h => hgate.trans h
  have hm₀ : (w.updateMember i fun m => { m with processor := p }).members[i]? =
      some { m' with processor := p } :=
    getElem?_updateMember hm _
  generalize hxs : m'.processor.items i = xs at hturn hphase hown
  generalize hys : p.items i = ys at hturn hphase
  have htaken {z : Item} (h : xs = z ::ₘ ys) :
      (w.updateMember i fun m => { m with processor := p }).Adds w {z} :=
    hw.sound.adds_take hm (by rw [hxs, hys, h])
  cases hturn with
  | idle => exact fares_of_stays (hw.sound.stays_processor hm hp hgate (hys.trans hxs.symm)) hx
  | parked =>
    refine hw.fares_of_carries (hw.sound.carries_park hm hp hgate hxs hys) (by simp [marks])
      (fun h => ?_) hx
    obtain ⟨rfl, rfl⟩ := hown _ (Multiset.mem_cons_self ..) h
    exact h ▸ .parked
  | @first j =>
    have hz := htaken rfl
    obtain ⟨c, ⟨-, hhonest⟩, -⟩ := hw.owned _ hz.mem
    obtain ⟨y, hy, hmarks, hadds⟩ := hsound.exists_adds_try hm₀ (hw.ticket_lt_of_adds hz) hhonest
    refine hw.fares_of_carries (hz.carries hadds) hmarks (fun h => ?_) hx
    obtain ⟨rfl, rfl⟩ := hown _ (Multiset.mem_cons_self ..) h
    exact h ▸ .first (hy ⟨hattends.rooted, hattends.faithful⟩)
  | @again j reply =>
    have hz := htaken rfl
    obtain ⟨c, ⟨-, hhonest⟩, -⟩ := hw.owned _ hz.mem
    obtain ⟨y, hy, hmarks, hadds⟩ := hsound.exists_adds_try (j := j.retried) hm₀
      (hw.ticket_lt_of_adds hz) hhonest
    refine hw.fares_of_carries (hz.carries hadds) hmarks (fun h => ?_) hx
    obtain ⟨rfl, rfl⟩ := hown _ (Multiset.mem_cons_self ..) h
    have hrunning := hphase.resolve_right fun hqueued => by
      have heq := hqueued _ rfl
      rw [Multiset.cons_inj_left] at heq
      cases heq
    exact h ▸ .again hrunning (hy ⟨hattends.rooted, hattends.faithful⟩)
  | @settled j reply =>
    have hz := htaken rfl
    obtain ⟨y, hy, hadds⟩ := exists_adds_finish hsound hm₀ (hw.ticket_lt_of_adds hz)
      (.processor i) reply
    refine hw.fares_of_carries (hz.carries hadds) (by simp [marks]) (fun h => ?_) hx
    obtain ⟨rfl, rfl⟩ := hown _ (Multiset.mem_cons_self ..) h
    exact h ▸ .settled hy
  | @given j reply =>
    have hz := htaken rfl
    obtain ⟨y, hy, hadds⟩ := exists_adds_finish hsound hm₀ (hw.ticket_lt_of_adds hz)
      (.processor i) reply
    refine hw.fares_of_carries (hz.carries hadds) (by simp [marks]) (fun h => ?_) hx
    obtain ⟨rfl, rfl⟩ := hown _ (Multiset.mem_cons_self ..) h
    exact h ▸ .given hy

/-! ## Steps -/

/-- **What a step makes of a call of a client that attends to it**: it leaves the call where it is
and marks nothing of it, or the call fares as it should. -/
theorem Accounted.fares (hw : w.Accounted) (hm : w.members[k]? = some m) (hattends : m.Attends)
    (h : w.Step marks w') (hx : x ∈ w.items) (hc : x.IsOf c) (hk : c.client = k) :
    ∃ y ∈ w'.items, (y = x ∧ ∀ mark ∈ marks, mark.ticket ≠ x.ticket) ∨ w.Fares k m x marks y := by
  cases h with
  | progress h =>
    -- what a processor has are calls of its own client
    have hown {i : Nat} {m' : Member} (hm' : w.members[i]? = some m') :
        ∀ z ∈ m'.processor.items i, x = z → i = k ∧ m' = m := by
      rintro z hz rfl
      obtain rfl := (client_of_mem_processor hz hc).symm.trans hk
      exact ⟨rfl, Option.some.inj (hm'.symm.trans hm)⟩
    cases h with
    | @process i m' delay? a p hm' hdelay hstep =>
      obtain ⟨hp, hgate, hturn⟩ := (hw.sound.processors i m' hm').step hdelay hstep
      refine hw.fares_act hm' hp hgate hturn ?_ hx (hown hm') hattends
      refine or_iff_not_imp_left.mpr fun hphase j ha => ?_
      exact items_of_perform hphase (ha ▸ hstep)
    | @clear i id m' j reply p hm' hphase hqueue hid hp =>
      subst hp
      refine hw.fares_act (a := .finish j reply) hm'
        ((hw.sound.processors i m' hm').clear hphase hqueue hid) rfl ?_ (.inr (by simp)) hx
        (hown hm') hattends
      rw [Processor.items_erase hid]
      exact .given
    | @receive r front back hincoming =>
      obtain ⟨m', y, hm', hy, hcarries⟩ := hw.exists_carries_receive hincoming
      refine hw.fares_of_carries hcarries (by simp) (fun heq => ?_) hx
      subst heq
      obtain rfl : r.client = k := (congrArg Call.client hc.1).trans hk
      obtain rfl : m' = m := Option.some.inj (hm'.symm.trans hm)
      rw [tampered_of_isFaithful hattends.faithful] at hy
      exact .met hy
    | @release i hreleased =>
      obtain ⟨m', j, reply, y, hm', hy, hcarries⟩ := hw.exists_carries_release hreleased
      refine hw.fares_of_carries hcarries (by simp) (fun heq => ?_) hx
      subst heq
      obtain rfl : i = k := (congrArg Call.client hc.1).trans hk
      obtain rfl : m' = m := Option.some.inj (hm'.symm.trans hm)
      exact .met hy
    | deliver hstep =>
      rcases hw.stays_or_carries_deliver hstep with hstays | ⟨i, d, hcarries⟩
      · exact fares_of_stays hstays hx
      · refine hw.fares_of_carries hcarries (by simp) (fun heq => ?_) hx
        subst heq
        obtain rfl : i = k := hc.1.trans hk
        exact .delivered
  | accept hm' h =>
    obtain ⟨-, -, -, -, hitems⟩ := hw.sound.items_enqueue hm' h
    exact ⟨x, hitems ▸ Multiset.mem_cons_of_mem hx, .inl ⟨rfl, by simp⟩⟩
  | shutdown i => exact fares_of_stays (adds_beginClose hw.sound i).stays hx
  | start h => exact fares_of_stays (hw.sound.stays_start h) hx
  | elsewhere h => exact fares_of_stays (hw.sound.stays_elsewhere h) hx

/-! ## What a step keeps -/

namespace Fares

theorem advance (h : w.Fares k m x marks y) (hx : x.IsOf c) : Advance x marks y := by
  cases h with
  | first h => exact .first (h.attempt hx.2)
  | again _ h => exact .again (h.attempt hx.2)
  | met h => exact h.advance
  | parked => exact .parked
  | settled h => exact .settled (h.ends (Job.isAbout_outcome ..))
  | given h => exact .given (h.ends (Job.isAbout_outcome ..))
  | delivered => exact .delivered

/-- The replies to a call remain of a kind if the store's reply is of that kind. -/
theorem keeps (h : w.Fares k m x marks y) (hc : x.IsOf c) (hx : x.Keeps c m.client.space R)
    (hR : marks = [] → ∀ reply, R reply → R' reply)
    (hask : marks = [.sent c.ticket] → R' (c.payload.ask m.session w.store).1) :
    y.Keeps c m.client.space R' := by
  cases h with
  | first h =>
    obtain ⟨rfl, -⟩ := hc
    cases h with
    | sent hdecided => exact ⟨hdecided, hask rfl⟩
    | told hdecided => exact nomatch hdecided.symm.trans hx
  | again _ h =>
    obtain ⟨rfl, -⟩ := hc
    cases h with
    | sent hdecided => exact ⟨hdecided, hask rfl⟩
    | told hdecided => exact nomatch hdecided.symm.trans hx.1
  | met h =>
    obtain ⟨rfl, -⟩ := hc
    rcases h with rfl | rfl | h
    · exact ⟨hx.1, hR rfl _ hx.2⟩
    · exact ⟨hx.1, hR rfl _ hx.2⟩
    · exact h.keeps (hR rfl _ hx.2)
  | parked => exact ⟨hx.1, hR rfl _ hx.2⟩
  | settled h | given h =>
    obtain ⟨rfl, -⟩ := hc
    exact h.keeps (hR rfl _ hx.2)
  | delivered => exact Item.Keeps.mono (x := .delivered _ _) hx (hR rfl)

/-- What is not new is not sent again by a processor that is not running. -/
theorem of_shut (h : w.Fares k m x marks y) (hphase : m.processor.phase ≠ .running)
    (hx : x.isQueued = false) : marks = [] ∧ y.isQueued = false := by
  cases h with
  | first => cases hx
  | again hrunning => exact absurd hrunning hphase
  | met h =>
    rcases h with rfl | rfl | h
    · exact ⟨rfl, rfl⟩
    · exact ⟨rfl, rfl⟩
    · exact ⟨rfl, h.isQueued_eq_false⟩
  | parked | delivered => exact ⟨rfl, rfl⟩
  | settled h | given h => exact ⟨rfl, h.isQueued_eq_false⟩

end Fares

/-! ## Runs -/

/-- Whether the store of a world was the last to be asked for a call in a run, a session being live
all the while. -/
def Asked (w : World) (c : Call) (s : Session) (marks : List Mark) (w' u : World) : Prop :=
  ∃ before after, w.Runs (HasLive s) before u ∧ u.Runs (HasLive s) (.sent c.ticket :: after) w' ∧
    .sent c.ticket ∉ after ∧ marks = before ++ .sent c.ticket :: after

theorem Asked.tail (h : w.Asked c s marks w' u) (hgoes : w'.Goes marks' w'')
    (hlive : w''.HasLive s) (hmarks : .sent c.ticket ∉ marks') :
    w.Asked c s (marks ++ marks') w'' u := by
  obtain ⟨before, after, hbefore, hafter, hlast, rfl⟩ := h
  have hlast' : .sent c.ticket ∉ after ++ marks' := by simp [hlast, hmarks]
  exact ⟨before, after ++ marks', hbefore, hafter.tail hgoes hlive, hlast', by simp⟩

/-- What the store said to a call when it was last asked for it. -/
def Says (w : World) (c : Call) (s : Session) (marks : List Mark) (w' : World)
    (reply : StoreReply) : Prop :=
  ∃ u, w.Asked c s marks w' u ∧ reply = (c.payload.ask s u.store).1

/-- **The reply to a call in a run** is what the store said when it was last asked. -/
theorem Runs.keeps (hw : w.Accounted) (hm : w.members[k]? = some m) (hattends : m.Attends)
    (hx : x ∈ w.items) (hc : x.IsOf c) (hk : c.client = k)
    (hkeeps : x.Keeps c m.client.space fun _ => False) (h : w.Runs (HasLive m.session) marks w') :
    ∃ y ∈ w'.items, y.IsOf c ∧ y.Keeps c m.client.space (w.Says c m.session marks w') := by
  induction h with
  | refl => exact ⟨x, hx, hc, hkeeps.mono fun _ => False.elim⟩
  | @tail marks marks' w' w'' hruns hgoes hlive ih =>
    obtain ⟨y, hy, hyc, hykeeps⟩ := ih
    obtain ⟨m', hm', hlasts⟩ := hruns.lasts.members k m hm
    -- an answer is the last one until the store is asked again
    have hsaid (hmarks : .sent c.ticket ∉ marks') (reply : StoreReply) :
        w.Says c m.session marks w' reply → w.Says c m.session (marks ++ marks') w'' reply :=
      fun ⟨u, hu, hreply⟩ => ⟨u, hu.tail hgoes hlive hmarks, hreply⟩
    obtain ⟨z, hz, ⟨rfl, hmarks⟩ | hfares⟩ := (hw.steps hruns.steps).fares hm'
      (hlasts.attends hattends) hgoes.step hy hyc hk
    · exact ⟨z, hz, hyc, hykeeps.mono (hsaid fun hsent => hmarks _ hsent hyc.ticket_eq.symm)⟩
    · refine ⟨z, hz, (hfares.advance hyc).isOf hyc, ?_⟩
      rw [← hlasts.space] at hykeeps ⊢
      refine hfares.keeps hyc hykeeps (fun hnone => hsaid (by simp [hnone])) fun hsent => ?_
      subst hsent
      rw [hlasts.session]
      exact ⟨w', ⟨marks, [], hruns, .tail (.refl hruns.holds) hgoes hlive, by simp, rfl⟩, rfl⟩

/-- **A call that is not new is not sent again**, once the processor is not running any more. What
holds of the call then is what each step keeps. -/
theorem Runs.settles {Q : World → Prop} {G : Item → Prop} (hw : w.Accounted)
    (hm : w.members[k]? = some m) (hattends : m.Attends) (hphase : m.processor.phase ≠ .running)
    (hx : x ∈ w.items) (hc : x.IsOf c) (hk : c.client = k) (hnew : x.isQueued = false) (hG : G x)
    (hstep : ∀ {u : World} {m' x y}, m.Lasts m' → x.IsOf c → G x → u.Fares k m' x [] y → G y)
    (h : w.Runs Q marks w') :
    .sent c.ticket ∉ marks ∧ ∃ y ∈ w'.items, y.IsOf c ∧ y.isQueued = false ∧ G y := by
  induction h with
  | refl => exact ⟨by simp, x, hx, hc, hnew, hG⟩
  | @tail marks marks' w' w'' hruns hgoes _ ih =>
    obtain ⟨hsent, y, hy, hyc, hynew, hyG⟩ := ih
    obtain ⟨m', hm', hlasts⟩ := hruns.lasts.members k m hm
    simp only [List.mem_append, not_or]
    obtain ⟨z, hz, ⟨rfl, hmarks⟩ | hfares⟩ := (hw.steps hruns.steps).fares hm'
      (hlasts.attends hattends) hgoes.step hy hyc hk
    · exact ⟨⟨hsent, fun hmem => hmarks _ hmem hyc.ticket_eq.symm⟩, z, hz, hyc, hynew, hyG⟩
    · obtain ⟨rfl, hznew⟩ := hfares.of_shut (hlasts.shut hphase) hynew
      exact ⟨⟨hsent, by simp⟩, z, hz, (hfares.advance hyc).isOf hyc, hznew,
        hstep hlasts hyc hyG hfares⟩

end World

end Coordination
