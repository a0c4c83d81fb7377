import Coordination.Proofs.Background.Agreement
import Coordination.Proofs.Background.Fates

/-!
# Closing a client

A client is closed in three steps: its gate is closed, its processor is waited for, and its session
is closed. While the processor is waited for everything else may go on. The processor sends what is
new in its queue before it stops, so when the session is closed all calls that were accepted have
been sent; and what comes back later needs no session.

## Main definitions

* `World.IsSilent`: nothing that is asked of a client reaches the store
* `World.Closes`: a client is closed while its session is live

## Main results

* `World.isSilent_of_closed`: a client that has been closed is silent
* `World.Accounted.given`, `World.Accounted.outlasts`: the calls that wait when a processor clears
  up, and those that have left it when it has stopped
* `World.Closes.outlasts`: the calls of a client whose session is closed
* `World.Reached.clean_closing`: closing a client is clean and final
-/

namespace Coordination

namespace World

variable {w w' w'' w₀ u : World} {k : Nat} {m m' : Member} {marks marks' : List Mark} {x y : Item}
  {c : Call} {s : Session} {R R' : StoreReply → Prop}

/-! ## Closed clients -/

/-- Whether nothing that is asked of a client reaches the store. -/
structure IsSilent (w : World) (k : Nat) (m : Member) : Prop where
  /-- Operations are refused. -/
  execute : ∀ o mode, (w.execute k m o mode).1 = .error .shuttingDown ∧
    (w.execute k m o mode).2.store = w.store
  /-- So are transactions, -/
  submit : ∀ os mode, (w.submit k m os mode).1 = .error .shuttingDown ∧
    (w.submit k m os mode).2.store = w.store
  /-- and so is ensuring a path. -/
  ensurePath : ∀ p,
    (w.foreground k m fun link c s => c.ensurePath link p s).1 = .error .shuttingDown ∧
      (w.foreground k m fun link c s => c.ensurePath link p s).2.store = w.store
  /-- The client's ensurer does not reach the store, -/
  ensure : ∀ p, (w.foreground k m fun link c s => c.ensure link p s).2.store = w.store
  /-- nor do ensurers of callers. -/
  ensureWith : ∀ e p, (w.ensureWith k m e p).2.store = w.store
  /-- The client is not closed again. -/
  close : w.close k = w

/-- Over a line of a closed session no request reaches the store. -/
theorem link_submit_of_isClosed {st : Store} (hs : st.isClosed s) (r : Request)
    (z : Store × Tampering) (hz : z.1 = st) : ((Tampering.link s).submit z r).2.1 = st := by
  subst hz
  show (z.1.submit s r).2 = z.1
  rw [Store.submit, Store.receive_of_closed hs]

/-- Nor does the ensuring of a path. -/
theorem store_ensure_of_isClosed {st : Store} {t : Tampering} (hs : st.isClosed s) (c : Config)
    (e : Ensurer) (p : String) : (e.ensure (Tampering.link s) c p (st, t)).2.2.2.1 = st :=
  Ensurer.ensure_keeps (P := fun z : Store × Tampering => z.1 = st)
    (fun _ _ _ z => link_submit_of_isClosed hs _ z) rfl

/-- What is done in the foreground leaves the store that the work leaves. -/
theorem store_foreground {α : Type} (w : World) (k : Nat) (m : Member) (work : Work α) :
    (w.foreground k m work).2.store =
      (work (Tampering.link m.session) m.client (w.store, m.tampering)).2.2.1 :=
  rfl

/-- **A client that has been closed with its session is silent.** -/
theorem isSilent_of_closed (hm : w.members[k]? = some m) (hclosed : m.client.closed)
    (hsession : w.store.isClosed m.session) : w.IsSilent k m := by
  have hopen : m.client.checkOpen = .error .shuttingDown := if_pos hclosed
  refine ⟨fun o mode => ?_, fun os mode => ?_, fun p => ?_, fun p => ?_, fun e p => ?_, ?_⟩
  · cases hmode : mode.background with
    | true =>
      rw [execute_background hmode, later_of_closed hclosed]
      exact ⟨rfl, rfl⟩
    | false =>
      simp [World.execute, hmode, foreground, Client.execute, hopen, updateMember, Except.map]
  · cases hmode : mode.background with
    | true =>
      rw [submit_background hmode, later_of_closed hclosed]
      exact ⟨rfl, rfl⟩
    | false =>
      simp [World.submit, hmode, foreground, Client.submit, hopen, updateMember, Except.map]
  · simp [foreground, Client.ensurePath, hopen, updateMember]
  · rw [store_foreground]
    exact store_ensure_of_isClosed hsession m.client.config m.client.ensurer p
  · rw [ensureWith, store_foreground]
    exact store_ensure_of_isClosed hsession m.client.config e p
  · unfold World.close
    rw [hm]
    exact if_pos hclosed

/-! ## Closing -/

/-- Whether a client that was open has been closed up to the point where it closes its session: its
gate has been closed, and its processor has been waited for while the session was live. -/
structure Closes (w : World) (k : Nat) (s : Session) (marks : List Mark) (w' : World) : Prop where
  /-- The client was open. -/
  isOpen : ∃ m, w.members[k]? = some m ∧ m.client.closed = false
  /-- The gate is closed, and then anything may happen -/
  waits : (w.beginClose k).Runs (HasLive s) marks w'
  /-- until the processor has ended. -/
  ended : ∃ m, w'.members[k]? = some m ∧ m.processor.hasEnded

theorem isClosed_endClose (hm : w.members[k]? = some m) :
    (w.endClose k).store.isClosed m.session := by
  simp only [endClose, hm]
  exact Store.isClosed_close ..

/-- **The schedule closes a client like that**, as long as the delays that are asked for lead to
instants and the session remains live until the processor has ended. -/
theorem closes_settle (hm : w.members[k]? = some m) (hopen : m.client.closed = false)
    (htimely : ∀ i < (w.beginClose k).workBound, (settleFor i (w.beginClose k)).IsTimely)
    (hlive : ∀ i ≤ (w.beginClose k).workBound, (settleFor i (w.beginClose k)).HasLive s)
    (hended : ∃ m, (w.beginClose k).settle.members[k]? = some m ∧ m.processor.hasEnded) :
    w.Closes k s (settleMarks (w.beginClose k).workBound (w.beginClose k)) (w.beginClose k).settle ∧
      w.close k = ((w.beginClose k).settle.endClose k).settle := by
  refine ⟨⟨⟨m, hm, hopen⟩, runs_settleFor _ _ htimely hlive, hended⟩, ?_⟩
  simp [World.close, hm, hopen]

/-- A client that is closed while its session is live goes on from what came before. -/
theorem Runs.closes {s : Session} {during : List Mark} (h : w.Runs (HasLive s) marks w')
    (hcloses : w'.Closes k s during w'') : w.Runs (HasLive s) (marks ++ during) w'' :=
  (List.append_nil marks ▸ h.tail (goes_beginClose w' k) hcloses.waits.first).trans hcloses.waits

/-- The processor of a client has stopped when it has been waited for. -/
theorem Closes.exists_stopped (h : w.Closes k s marks w') (hw : w.Accounted) :
    ∃ m, w'.members[k]? = some m ∧ m.processor.phase = .stopped := by
  obtain ⟨m, hm, hended⟩ := h.ended
  have hw' : w'.Accounted := (hw.steps (Steps.refl.tail (.shutdown k))).steps h.waits.steps
  refine ⟨m, hm, ?_⟩
  have halive := (hw'.sound.processors k m hm).alive
  simpa [Processor.hasEnded, halive] using hended

/-- A processor that has stopped has none of the calls of its client. -/
theorem Sound.isOut_of_stopped (hw : w.Sound) (hm : w.members[k]? = some m)
    (hphase : m.processor.phase = .stopped) (hx : x ∈ w.items) (hc : x.IsOf c)
    (hk : c.client = k) : x.isOut := by
  simp only [items, Multiset.mem_add, mem_gather] at hx
  rcases hx with ((⟨i, m', hm', hx⟩ | hx) | ⟨i, z, -, hx⟩) | ⟨i, log, -, hx⟩
  · rcases Multiset.mem_add.mp hx with hx | hx
    · obtain rfl := (client_of_mem_processor hx hc).symm.trans hk
      obtain rfl : m = m' := Option.some.inj (hm.symm.trans hm')
      rw [(hw.processors _ m hm).items_of_stopped hphase] at hx
      cases Multiset.notMem_zero _ hx
    · obtain ⟨_, -, rfl⟩ := List.mem_map.mp hx
      rfl
  · obtain ⟨_, -, rfl⟩ := List.mem_map.mp hx
    rfl
  · obtain ⟨_, -, rfl⟩ := List.mem_map.mp hx
    rfl
  · obtain ⟨_, -, rfl⟩ := List.mem_map.mp hx
    rfl

/-! ## What becomes of calls -/

theorem Says.sent_mem {reply : StoreReply} (h : w.Says c s marks w' reply) :
    .sent c.ticket ∈ marks := by
  obtain ⟨u, ⟨before, after, -, -, -, rfl⟩, -⟩ := h
  simp

/-- **A call ends because its session is gone only by a fault**, as long as the session is live. -/
theorem exists_fault_of_endsBy {n : Namespace} {e : Event} (h : c.EndsBy n (w.Says c s marks w') e)
    (he : e.code = some .sessionExpired) :
    ∃ u, w.Asked c s marks w' u ∧ ∃ f ∈ u.store.faults, f.code = .sessionExpired := by
  obtain ⟨j, reply, hj, ⟨u, hasked, rfl⟩, rfl⟩ := h
  obtain ⟨_, _, -, hlive, -⟩ := id hasked
  rw [← show j.payload = c.payload from congrArg Call.payload hj] at he
  obtain ⟨refusal, hrefusal, hcode⟩ := Job.exists_error_of_code (j := j) n he (by simp)
  exact ⟨u, hasked, Payload.exists_fault_of_ask hlive.first.isConnected hrefusal hcode⟩

/-- A call that is queued leaves the store as it is. -/
theorem store_enqueue (w : World) (k : Nat) (m : Member) (payload : Payload) (mode : Mode) :
    (w.enqueue k m payload mode).2.store = w.store := by
  unfold enqueue
  dsimp only
  split <;> rfl

/-- A call that is accepted while its session is live is to be sent. -/
theorem Accounted.exists_keeps (hw : w.Accounted) (hm : w.members[k]? = some m)
    (hattends : m.Attends) (hk : c.client = k)
    (h : w.enqueue k m c.payload c.mode = (.ok c.ticket, w'))
    (hruns : w'.Runs (HasLive m.session) marks w'') :
    ∃ x ∈ w''.items, x.IsOf c ∧ x.Keeps c m.client.space (w'.Says c m.session marks w'') := by
  obtain ⟨-, -, -, -, hitems⟩ := hw.sound.items_enqueue hm h
  obtain ⟨m', hm', hlasts⟩ := (lasts_enqueue hm h).members k m hm
  have hstore : w'.store = w.store := by
    rw [← store_enqueue w k m c.payload c.mode, h]
  have hconnected : w.store.isConnected m.session := hstore ▸ hruns.first.isConnected
  rw [if_pos hconnected] at hitems
  have hx : Item.queued k (.fresh c.ticket c.payload c.mode none) ∈ w'.items :=
    hitems ▸ Multiset.mem_cons_self ..
  have hof : (Item.queued k (.fresh c.ticket c.payload c.mode none)).IsOf c :=
    ⟨hk ▸ rfl, fun _ he => nomatch he⟩
  rw [← hlasts.session] at hruns ⊢
  rw [← hlasts.space]
  have hw' := (hw.steps (Steps.refl.tail (.accept hm h)))
  exact hruns.keeps hw' hm' (hlasts.attends hattends) hx hof hk rfl

/-- **What is parked when its processor does not run any more** stays there, or ends with what its
last attempt came to. It is not sent again. -/
theorem Accounted.given {Q : World → Prop} {j : Job} {reply : StoreReply} (hw : w.Accounted)
    (hm : w.members[k]? = some m) (hattends : m.Attends) (hphase : m.processor.phase ≠ .running)
    (hx : .parked k j reply ∈ w.items) (hdecided : j.decided = none) (h : w.Runs Q marks w') :
    .sent j.ticket ∉ marks ∧ ∃ x, w'.placesOf j.ticket = {x} ∧
      (x = .parked k j reply ∨ x.EndsWith k j (j.outcome m.client.space reply)) := by
  have hof : (Item.parked k j reply).IsOf (j.call k) :=
    ⟨rfl, fun e he => nomatch hdecided.symm.trans he⟩
  have hkept {u : World} {m' : Member} {x y : Item} (hlasts : m.Lasts m') (_ : x.IsOf (j.call k))
      (hG : x = .parked k j reply ∨ x.EndsWith k j (j.outcome m.client.space reply))
      (hfares : u.Fares k m' x [] y) :
      y = .parked k j reply ∨ y.EndsWith k j (j.outcome m.client.space reply) := by
    rcases hG with rfl | rfl | rfl
    · cases hfares with
      | again _ h =>
        cases h with
        | told h => exact nomatch h.symm.trans hdecided
      | given h => exact .inr (hlasts.space ▸ h)
    · cases hfares
      exact .inr (.inr rfl)
    · cases hfares
  obtain ⟨hsent, x, hx, hxc, -, hends⟩ :=
    h.settles hw hm hattends hphase hx hof rfl rfl (.inl rfl) hkept
  have hplaces := (hw.steps h.steps).placesOf_eq hx
  rw [hxc.ticket_eq] at hplaces
  exact ⟨hsent, x, hplaces, hends⟩

/-- **What has left its processor when that has stopped** comes to what the store said. It is not
sent again. -/
theorem Accounted.outlasts {Q : World → Prop} (hw : w.Accounted) (hm : w.members[k]? = some m)
    (hattends : m.Attends) (hphase : m.processor.phase = .stopped) (hx : x ∈ w.items)
    (hc : x.IsOf c) (hk : c.client = k) (hkeeps : x.Keeps c m.client.space R)
    (h : w.Runs Q marks w') :
    .sent c.ticket ∉ marks ∧ ∃ y, w'.placesOf c.ticket = {y} ∧ y.IsOf c ∧ y.isOut ∧
      y.Keeps c m.client.space R := by
  have hnew : x.isQueued = false := by
    have hout := hw.sound.isOut_of_stopped hm hphase hx hc hk
    cases x with
    | queued => cases hout
    | _ => rfl
  have hkept {u : World} {m' : Member} {x y : Item} (hlasts : m.Lasts m') (hx : x.IsOf c)
      (hkeeps : x.Keeps c m.client.space R) (hfares : u.Fares k m' x [] y) :
      y.Keeps c m.client.space R := by
    rw [← hlasts.space] at hkeeps ⊢
    exact hfares.keeps hx hkeeps (fun _ _ => id) (by simp)
  obtain ⟨hsent, y, hy, hyc, -, hykeeps⟩ :=
    h.settles hw hm hattends (by simp [hphase]) hx hc hk hnew hkeeps hkept
  have hw' := hw.steps h.steps
  have hplaces := hw'.placesOf_eq hy
  rw [hyc.ticket_eq] at hplaces
  -- the processor does not begin anew
  obtain ⟨m', hm', hlasts⟩ := h.lasts.members k m hm
  have hout := hw'.sound.isOut_of_stopped hm' (hlasts.stopped hphase) hy hyc hk
  exact ⟨hsent, y, hplaces, hyc, hout, hykeeps⟩

/-- **When the session of a client is closed its calls have been sent**, and what the store said to
them is what they come to. -/
theorem Closes.outlasts (h : w.Closes k s marks w') (hw : w.Accounted)
    (hm : w.members[k]? = some m) (hattends : m.Attends) (hx : x ∈ w'.items) (hc : x.IsOf c)
    (hk : c.client = k) (hkeeps : x.Keeps c m.client.space R) :
    (∃ reply, R reply) ∧ ∀ Q later w'', (w'.endClose k).Runs Q later w'' →
      .sent c.ticket ∉ later ∧ ∃ y, w''.placesOf c.ticket = {y} ∧ y.IsOf c ∧ y.isOut ∧
        y.Keeps c m.client.space R := by
  obtain ⟨m', hm', hstopped⟩ := h.exists_stopped hw
  obtain ⟨_, hlast, hlasts⟩ :=
    ((lasts_beginClose w k).trans h.waits.lasts).members k m hm
  obtain rfl : m' = _ := Option.some.inj (hm'.symm.trans hlast)
  have hw' : w'.Accounted := (hw.steps (Steps.refl.tail (.shutdown k))).steps h.waits.steps
  have hout := hw'.sound.isOut_of_stopped hm' hstopped hx hc hk
  refine ⟨hkeeps.exists_reply hout, fun Q later w'' hlater => ?_⟩
  -- the end of the session takes nothing from where it is
  have hstays := (adds_endClose hw'.sound k).stays
  have hmember : (w'.endClose k).members[k]? = some m' := by
    simp only [endClose, hm']
  rw [← hlasts.space] at hkeeps ⊢
  exact (hw'.of_moves hstays.moves).outlasts hmember (hlasts.attends hattends) hstopped
    (hstays.items ▸ hx) hc hk hkeeps hlater

/-- What closing its session leaves of a client. -/
theorem Closes.exists_closed {Q : World → Prop} {later : List Mark}
    (hm : w.members[k]? = some m) (h : w.Closes k m.session marks w')
    (hlater : (w'.endClose k).Runs Q later w'') :
    ∃ m', w''.members[k]? = some m' ∧ m'.client.closed ∧ m'.session = m.session ∧
      w''.store.isClosed m.session := by
  obtain ⟨m₁, hm₁, hlasts₁⟩ := (lasts_beginClose w k).members k m hm
  obtain ⟨m₂, hm₂, hlasts₂⟩ := h.waits.lasts.members k m₁ hm₁
  obtain ⟨m₃, hm₃, hlasts₃⟩ := ((lasts_endClose w' k).trans hlater.lasts).members k m₂ hm₂
  have hclosed : m₁.client.closed := by
    obtain rfl : _ = m₁ := by simpa [beginClose, updateMember, hm] using hm₁
    rfl
  have hsession : m₂.session = m.session := hlasts₂.session.trans hlasts₁.session
  refine ⟨m₃, hm₃, hlasts₃.closed (hlasts₂.closed hclosed), hlasts₃.session.trans hsession, ?_⟩
  have hended := Std.ExtTreeSet.contains_iff_mem.mp (isClosed_endClose hm₂)
  rw [hsession] at hended
  exact Std.ExtTreeSet.contains_iff_mem.mpr (hlater.lasts.store.closed _ hended)

/-- **Closing a client is clean and final**, as long as all delays that are asked for lead to
instants. Take a call that a client accepts which attends to it, and let the session be live until
it is closed. If the call waits to be sent again when the processor does not run any more, it is not
sent again and ends with what the store last said to it: with that error, unless it is a repeat that
finds its work done. When the session is closed the call has been sent and has left the processor;
it comes to what the store last said to it, so it does not end for want of a session unless a fault
says so. From then on the session owns no nodes, and whatever is asked of the client leaves the
store as it is. -/
theorem Reached.clean_closing (h : Reached marks w₀) (hm : w₀.members[k]? = some m) :
    (m.Attends → ∀ c w₁, c.client = k → w₀.enqueue k m c.payload c.mode = (.ok c.ticket, w₁) →
      ∀ earlier w, w₁.Runs (HasLive m.session) earlier w →
        (∀ m' j reply, w.members[k]? = some m' → m'.processor.phase ≠ .running →
          .parked k j reply ∈ w.items → j.ticket = c.ticket →
            w₁.Says c m.session earlier w reply ∧
            (∀ e, reply.error? = some e →
              (j.outcome m.client.space reply).code = some e.code ∨
                (j.outcome m.client.space reply).isOk ∧ j.retries ≠ 0 ∧
                  ∃ r path, c.payload = .single r path ∧ (r.replayed? e).isSome) ∧
            ∀ later w', w.Runs (·.store.Reachable) later w' → .sent c.ticket ∉ later ∧
              ∃ x, w'.placesOf c.ticket = {x} ∧
                (x = .parked k j reply ∨ x.EndsWith k j (j.outcome m.client.space reply))) ∧
        ∀ during w', w.Closes k m.session during w' → .sent c.ticket ∈ earlier ++ during ∧
          ∀ later w'', (w'.endClose k).Runs (·.store.Reachable) later w'' →
            .sent c.ticket ∉ later ∧ ∃ x, w''.placesOf c.ticket = {x} ∧ x.IsOf c ∧ x.isOut ∧
              x.Keeps c m.client.space (w₁.Says c m.session (earlier ++ during) w') ∧
              ∀ e, x.event? = some e → e.code = some .sessionExpired →
                ∃ u, w₁.Asked c m.session (earlier ++ during) w' u ∧
                  ∃ f ∈ u.store.faults, f.code = .sessionExpired) ∧
    ∀ during w', w₀.Closes k m.session during w' →
      ∀ later w'', (w'.endClose k).Runs (·.store.Reachable) later w'' →
        (∀ p n, w''.store.tree.node? p = some n → n.stat.owner ≠ m.session.id) ∧
        ∃ m', w''.members[k]? = some m' ∧ w''.IsSilent k m' := by
  have hw := h.accounted
  refine ⟨fun hattends c w₁ hk hn earlier w hearlier => ?_,
    fun during w' hcloses later w'' hlater => ?_⟩
  · have hw₁ := hw.steps (Steps.refl.tail (.accept hm hn))
    have hw₂ := hw₁.steps hearlier.steps
    obtain ⟨m₂, hm₂, hlasts₂⟩ := ((lasts_enqueue hm hn).trans hearlier.lasts).members k m hm
    refine ⟨fun m' j reply hm' hphase hparked hj => ?_, fun during w' hcloses => ?_⟩
    · obtain rfl : m₂ = m' := Option.some.inj (hm₂.symm.trans hm')
      obtain ⟨x, hx, hxc, hkeeps⟩ := hw.exists_keeps hm hattends hk hn hearlier
      obtain rfl : x = .parked k j reply :=
        hw₂.eq_of_ticket_eq hx hparked (hxc.ticket_eq.trans hj.symm)
      obtain ⟨hdecided, hsaid⟩ := hkeeps
      refine ⟨hsaid, fun e he => ?_, fun later w' hlater => ?_⟩
      · obtain ⟨u, -, rfl⟩ := hsaid
        rw [← show j.payload = c.payload from congrArg Call.payload hxc.1] at he ⊢
        exact Job.code_outcome_of_refused he m.client.space
      · rw [← hj, ← hlasts₂.space]
        exact hw₂.given hm₂ (hlasts₂.attends hattends) hphase hparked hdecided hlater
    · obtain ⟨x, hx, hxc, hkeeps⟩ :=
        hw.exists_keeps hm hattends hk hn (hearlier.closes hcloses)
      rw [← hlasts₂.space] at hkeeps ⊢
      obtain ⟨⟨reply, hsaid⟩, houtlasts⟩ :=
        hcloses.outlasts hw₂ hm₂ (hlasts₂.attends hattends) hx hxc hk hkeeps
      refine ⟨hsaid.sent_mem, fun later w'' hlater => ?_⟩
      obtain ⟨hsent, y, hplaces, hyc, hout, hkept⟩ := houtlasts _ later w'' hlater
      exact ⟨hsent, y, hplaces, hyc, hout, hkept,
        fun e he hcode => exists_fault_of_endsBy (hkept.endsBy he) hcode⟩
  · obtain ⟨m', hm', hclosed, hsession, hended⟩ := hcloses.exists_closed hm hlater
    have hpos := hcloses.waits.holds.live.pos
    refine ⟨fun p n hn => hlater.holds.owner_ne_of_isClosed hended hpos hn, m', hm', ?_⟩
    exact isSilent_of_closed hm' hclosed (hsession ▸ hended)

/-! ## A call that waits when its client is closed -/

/-- The world in which the processor of the client clears up. -/
def clearing : World := settleFor 1 hurried

/-- The world in which it has done so. -/
def cleared : World := settleFor 5 clearing

/-- The call while it waits. -/
def waiting : Job :=
  { ticket := 0, payload := errand, mode := labelled, decided := none, retries := 0,
    started := some 0 }

/-- The error that the call has met. -/
def met : StoreReply := .single (.error (.refused .connectionLoss none))

/-- What the store sees, before and after it has been asked. -/
def hurriedMoves (asked : Bool) : List Store.Move :=
  [.connect [], .failNext .connectionLoss 1] ++
    if asked then [.submit ⟨1, []⟩ (.create "/x" ByteArray.empty .worldOpen .persistent)] else []

/-- The store before and after it has been asked. -/
def hurriedStore (asked : Bool) : Store := Store.Move.run .initial (hurriedMoves asked)

theorem hasLive_of_hurriedStore {asked : Bool} (h : w.store = hurriedStore asked) :
    w.HasLive caller.session := by
  have hlegal : ∀ asked, Store.Move.Legal .initial (hurriedMoves asked) := by decide +kernel
  have hopen : ∀ asked, 1 < (hurriedStore asked).nextSession ∧ 1 ∉ (hurriedStore asked).closed ∧
      1 ∉ (hurriedStore asked).expired := by
    decide +kernel
  obtain ⟨hopened, hclosed, hexpired⟩ := hopen asked
  refine ⟨h ▸ Store.Reachable.initial.run (hlegal asked), ?_⟩
  rw [h]
  exact ⟨by decide, hopened, hclosed, hexpired⟩

/-- As long as no time passes, the schedule is a run in which the session of the client is live. -/
theorem runs_of_calm {n : Nat} (h : ∀ i ≤ n, (settleFor i w).clock = 0 ∧
      (∀ m ∈ (settleFor i w).members, m.client.config.policy = .nTimes 5 (.ofMillis 1)) ∧
      ∃ asked, (settleFor i w).store = hurriedStore asked) :
    w.Runs (HasLive caller.session) (settleMarks n w) (settleFor n w) := by
  refine runs_settleFor n w (fun i hi => ?_) fun i hi => ?_
  · obtain ⟨hclock, hpolicies, -⟩ := h i (Nat.le_of_lt hi)
    exact isTimely_of_nTimes hpolicies (by rw [hclock]; decide +kernel)
  · obtain ⟨-, -, asked, hstore⟩ := h i hi
    exact hasLive_of_hurriedStore hstore

theorem attends_caller : caller.Attends where
  rooted root h := by cases h
  faithful := ⟨rfl, rfl, rfl⟩

theorem mem_items_of_clearing :
    .parked 0 waiting met ∈ clearing.items := by
  have hparked : (clearing.members[0]?).map (fun m : Member => m.processor.parked.toList) =
      some [(0, waiting, met)] := by
    decide +kernel
  obtain ⟨m, hm, hmparked⟩ := Option.map_eq_some_iff.mp hparked
  simp only [items, Multiset.mem_add, mem_gather]
  refine .inl (.inl (.inl ⟨0, m, hm, ?_⟩))
  simp [Member.items, Processor.items, Processor.parkedItems, hmparked]

/-- The call that waits is among those that were sent, ends with the error that it met, and has left
its processor when the session has been closed; then the client is silent. -/
theorem clean_closing_of_hurried :
    (∃ earlier during, called.Runs (HasLive caller.session) earlier (settleFor 3 called) ∧
      (settleFor 3 called).Closes 0 caller.session during cleared ∧ .sent 0 ∈ earlier ++ during) ∧
    (waiting.outcome .whole met).code = some .connectionLoss ∧
    (∃ x, cleared.placesOf 0 = {x} ∧
      (x = .parked 0 waiting met ∨ x.EndsWith 0 waiting (waiting.outcome .whole met))) ∧
    (∃ x, (cleared.endClose 0).placesOf 0 = {x} ∧ x.isOut) ∧
    ∃ m, (cleared.endClose 0).members[0]? = some m ∧ (cleared.endClose 0).IsSilent 0 m := by
  have hearlier :
      called.Runs (HasLive caller.session) (settleMarks 3 called) (settleFor 3 called) :=
    runs_of_calm (by decide +kernel)
  have hbegun : hurried.Runs (HasLive caller.session) (settleMarks 1 hurried) clearing :=
    runs_of_calm (by decide +kernel)
  have hcleared : clearing.Runs (HasLive caller.session) (settleMarks 5 clearing) cleared :=
    runs_of_calm (by decide +kernel)
  have hopen : ((settleFor 3 called).members[0]?).map
      (fun m : Member => (m.session, m.client.closed)) = some (caller.session, false) := by
    decide +kernel
  have hdraining : (clearing.members[0]?).map (fun m : Member => m.processor.phase) =
      some .draining := by
    decide +kernel
  have hended : (cleared.members[0]?).map (fun m : Member => (m.session, m.processor.hasEnded)) =
      some (caller.session, true) := by
    decide +kernel
  obtain ⟨m, hm, hopen⟩ := Option.map_eq_some_iff.mp hopen
  obtain ⟨m', hm', hdraining⟩ := Option.map_eq_some_iff.mp hdraining
  obtain ⟨m'', hm'', hended⟩ := Option.map_eq_some_iff.mp hended
  obtain ⟨hsession, hopen⟩ := Prod.mk.inj hopen
  obtain ⟨hsession', hended⟩ := Prod.mk.inj hended
  have hcloses : (settleFor 3 called).Closes 0 caller.session
      (settleMarks 1 hurried ++ settleMarks 5 clearing) cleared :=
    ⟨⟨m, hm, hopen⟩, hbegun.trans hcleared, m'', hm'', hended⟩
  have hclosed : (cleared.endClose 0).store.Reachable :=
    HasLive.reachable_endClose (hsession' ▸ hcleared.holds) hm''
  -- the call is accepted, and waits when the processor clears up
  obtain ⟨hcalls, -⟩ := reached_attended.clean_closing (m := caller) (k := 0) rfl
  have hcall := hcalls attends_caller ⟨0, 0, errand, labelled⟩ called rfl rfl
  obtain ⟨-, hcode, hgiven⟩ :=
    (hcall _ clearing ((hearlier.tail (goes_beginClose _ 0) hbegun.first).trans hbegun)).1 m'
      waiting met hm' (by simp [hdraining]) mem_items_of_clearing rfl
  obtain ⟨-, x, hx, hends⟩ := hgiven _ cleared (hcleared.mono fun _ h => h.reachable)
  -- the client is closed
  obtain ⟨hsent, hlater⟩ := (hcall _ _ hearlier).2 _ cleared hcloses
  obtain ⟨-, y, hy, -, hout, -⟩ := hlater [] _ (.refl hclosed)
  have hreached : Reached _ (settleFor 3 called) :=
    (reached_attended.tail (.accept (k := 0) (n := 0) (m := caller) rfl rfl)).trans hearlier.steps
  obtain ⟨-, hsilent⟩ :=
    (hreached.clean_closing hm).2 _ cleared (hsession ▸ hcloses) [] _ (.refl hclosed)
  refine ⟨⟨_, _, hearlier, hcloses, hsent⟩, ?_, ⟨x, hx, hends⟩, ⟨y, hy, hout⟩, hsilent⟩
  exact (hcode _ rfl).resolve_right fun h => h.2.1 rfl

/-! ## A call that is taken for a repeat when its client is closed -/

/-- A client that tries again where a node is in its way. -/
def insistent : Member :=
  { caller with
    client :=
      { caller.client with
        config := { Config.trial with policy := .custom 5 (.ofMillis 1) [.nodeExists] } } }

/-- A world with the client, in which somebody's node is in its way. -/
def obstructed : World :=
  { initial with
    store := Store.Move.run .initial
      [.connect [], .submit ⟨1, []⟩ (.create "/x" "theirs".toUTF8 .worldOpen .persistent)]
    members := [insistent] }

/-- The world with the call. -/
def insisting : World := (obstructed.enqueue 0 insistent errand .inBackground).2

/-- The world in which the call has waited once. -/
def insistedOnce : World := { settleFor 3 insisting with clock := (Duration.ofMillis 1).nanos }

/-- The world in which the client is shut down while the call waits again. -/
def givingUp : World := (settleFor 3 insistedOnce).beginClose 0

/-- The call while it waits again. -/
def waitingAgain : Job :=
  { ticket := 0, payload := errand, mode := .inBackground, decided := none, retries := 1,
    started := some 0 }

/-- The world in which the processor clears up. -/
def yielding : World := settleFor 1 givingUp

theorem reached_obstructed : Reached [] obstructed := by
  have hoccupied : initial.Step [] { initial with store := obstructed.store } :=
    .elsewhere ⟨Nat.le_refl _, rfl, rfl, rfl, rfl⟩
  have hstarted : ({ initial with store := obstructed.store } : World).Step [] obstructed :=
    .start (s := ⟨1, []⟩) (t := .none) (k := 0) (c := insistent.client.config) rfl
  exact (Steps.refl.tail hoccupied).tail hstarted

theorem steps_of_insistent {n : Nat} {w : World} (h : ∀ i < n,
      (settleFor i w).clock ≤ (Duration.ofMillis 1).nanos ∧
      ∀ m ∈ (settleFor i w).members,
        m.client.config.policy = .custom 5 (.ofMillis 1) [.nodeExists]) :
    w.Steps (settleMarks n w) (settleFor n w) := by
  refine steps_settleFor n w fun i hi => isTimely_of_delay? fun m hm retries elapsed roll d hd => ?_
  obtain ⟨hclock, hpolicies⟩ := h i hi
  rw [hpolicies m hm] at hd
  obtain ⟨-, rfl⟩ : retries < 5 ∧ .ofMillis 1 = d := by
    simpa [RetryPolicy.delay?] using hd
  exact Nat.lt_of_le_of_lt (Nat.add_le_add_right hclock _) (by decide +kernel)

theorem reached_yielding : ∃ marks, Reached marks yielding := by
  have hparked : insisting.Steps (settleMarks 3 insisting) (settleFor 3 insisting) :=
    steps_of_insistent (by decide +kernel)
  have hwaited : (settleFor 3 insisting).Step [] insistedOnce :=
    .elsewhere ⟨by decide +kernel, rfl, rfl, rfl, rfl⟩
  have hagain : insistedOnce.Steps (settleMarks 3 insistedOnce) (settleFor 3 insistedOnce) :=
    steps_of_insistent (by decide +kernel)
  have hshut : givingUp.Steps (settleMarks 1 givingUp) yielding :=
    steps_of_insistent (by decide +kernel)
  have hcalled : obstructed.Step [] insisting := .accept (k := 0) (n := 0) (m := insistent) rfl rfl
  exact ⟨_, ((((reached_obstructed.tail hcalled).trans hparked).tail hwaited).trans hagain
    |>.tail (.shutdown 0)).trans hshut⟩

/-- A call that waits again because a node is in its way is refused for the last time before its
processor clears up, and is reported to have succeeded. -/
theorem success_of_yielding :
    (∃ marks, Reached marks yielding) ∧
      (yielding.members[0]?).map
          (fun m : Member => (m.processor.phase, m.processor.parked.toList)) =
        some (.draining,
          [(1, waitingAgain, .single (.error (.refused .nodeExists (some "/x"))))]) ∧
      (∃ later, yielding.Steps later (settleFor 3 yielding)) ∧
      ((settleFor 3 yielding).members[0]?).map (fun m : Member => m.processor.hasEnded) =
        some true ∧
      ((settleFor 3 yielding).calls[0]?).map (fun log : CallLog => log.deliveries) =
        some [{ Event.bare .create (some "/x") with name := some "/x" }] := by
  refine ⟨reached_yielding, ?_, ⟨_, steps_of_insistent (n := 3) ?_⟩, ?_, ?_⟩
  all_goals decide +kernel

end World

end Coordination
