import Coordination.Proofs.Background.Quiet
import Coordination.Proofs.Background.Scheduling
import Coordination.Proofs.Client.Tasks
import Coordination.Proofs.Store.Sessions

/-!
# What lasts

What no step of a world takes back: a client keeps its session and its namespace, a client that has
been closed remains closed, a root that has been ensured remains so, a processor that clears up does
not begin anew, a line that hands on answers as they are does not begin to tamper with them, and a
session that has ended does not come back. The steps of the threads keep all this by themselves; of
what happens elsewhere it has to be asked.

## Main definitions

* `World.Lasts`: nothing is taken back
* `World.Goes`, `World.Runs`: steps that take nothing back, one by one and in a row
* `World.HasLive`: a session of a store that moves lead to is open

## Main results

* `World.lasts_progress`: the threads take nothing back
* `World.goes_foreground`: nor do tasks in the foreground
-/

namespace Coordination

/-! ## Lines -/

namespace Tampering

variable {t : Tampering}

/-- Whether a line hands on all answers as they are. It may hold them back. -/
def IsFaithful (t : Tampering) : Prop := t.singles = [] ∧ t.batches = [] ∧ t.dropsLast = false

theorem single_of_isFaithful (h : t.IsFaithful) (result : Except StoreError Answer) :
    t.single result = (result, t) := by
  cases result <;> simp [single, h.1]

theorem batch_of_isFaithful (h : t.IsFaithful) (result : Except StoreError (List Answer)) :
    t.batch result = (result, t) := by
  cases result <;> simp [batch, h.2.1, h.2.2]

end Tampering

theorem World.tampered_of_isFaithful {t : Tampering} (h : t.IsFaithful) (reply : StoreReply) :
    tampered t reply = (reply, t) := by
  cases reply with
  | single result => simp only [tampered, Tampering.single_of_isFaithful h]
  | batch result => simp only [tampered, Tampering.batch_of_isFaithful h]

/-! ## Clients -/

namespace Ensurer

/-- What has been ensured is not forgotten. -/
theorem isEnsured_ensureBy {σ ε : Type} {e : Ensurer} {q : String} (h : e.isEnsured q) (p : String)
    (nothing : ε) (work : σ → Except Failure Unit × ε × σ) (s : σ) :
    (e.ensureBy p nothing work s).2.1.isEnsured q := by
  unfold ensureBy
  repeat' split
  · exact h
  · exact h
  · simp only [isEnsured, remember, Std.ExtTreeSet.contains_insert] at h ⊢
    simp [h]
  · exact h

theorem isEnsured_ensureOnce {σ : Type} {link : Link σ} {e : Ensurer} {q : String}
    (h : e.isEnsured q) (p : String) (s : σ) : (e.ensureOnce link p s).2.1.isEnsured q := by
  simp only [ensureOnce]
  exact isEnsured_ensureBy h ..

/-- What the requests keep, one attempt at a path keeps. -/
theorem ensureOnce_keeps {σ : Type} {link : Link σ} {e : Ensurer} {p : String} {s : σ}
    {P : σ → Prop} (hsubmit : ∀ s r, P s → P (link.submit s r).2) (h : P s) :
    P (e.ensureOnce link p s).2.2 := by
  have hlineage : P (createLineage link e (Path.lineage (e.space.fix p)) s).2 :=
    createLineage_keeps (fun q _ s => hsubmit s (e.request q)) h
  simp only [ensureOnce]
  refine ensureBy_keeps (fun _ => ?_) h
  unfold attempt
  split
  · rename_i hresult
    rwa [hresult] at hlineage
  · rename_i hresult
    rwa [hresult] at hlineage

end Ensurer

namespace Client

variable {σ : Type} {link : Link σ} {c : Client} {s : σ}

theorem isRooted_call {α : Type} {attempt : Nat → σ → Except StoreError α × σ} (h : c.IsRooted)
    (s : σ) : (c.call link attempt s).2.1.IsRooted := by
  rw [call_of_isRooted h]
  exact h

/-- A client need not ask for its root again after a task. -/
theorem isRooted_perform (h : c.IsRooted) (k : Task) (s : σ) :
    (c.perform link k s).2.1.IsRooted := by
  cases k with
  | execute o =>
    show (c.execute link o s).2.1.IsRooted
    unfold execute
    split
    · exact h
    · split
      · exact h
      · exact isRooted_call h s
  | submit os =>
    show (c.submit link os s).2.1.IsRooted
    unfold submit
    split
    · exact h
    · split
      · exact h
      · exact isRooted_call h s
  | ensurePath p =>
    show (c.ensurePath link p s).2.1.IsRooted
    unfold ensurePath
    split
    · exact h
    · exact h

end Client

/-- Whether nothing is taken back between two states of a client. -/
structure Member.Lasts (m m' : Member) : Prop where
  /-- It keeps its session -/
  session : m'.session = m.session
  /-- and its namespace. -/
  space : m'.client.space = m.client.space
  /-- It need not ask for its root again. -/
  rooted : m.client.IsRooted → m'.client.IsRooted
  /-- If it has been closed, it remains closed. -/
  closed : m.client.closed → m'.client.closed
  /-- Its line does not begin to tamper with answers. -/
  faithful : m.tampering.IsFaithful → m'.tampering.IsFaithful
  /-- Its processor does not begin anew, -/
  shut : m.processor.phase ≠ .running → m'.processor.phase ≠ .running
  /-- not even when it has stopped. -/
  stopped : m.processor.phase = .stopped → m'.processor.phase = .stopped

theorem Member.Lasts.refl (m : Member) : m.Lasts m := ⟨rfl, rfl, id, id, id, id, id⟩

theorem Member.Lasts.trans {m m' m'' : Member} (h : m.Lasts m') (h' : m'.Lasts m'') :
    m.Lasts m'' :=
  ⟨h'.session.trans h.session, h'.space.trans h.space, h'.rooted ∘ h.rooted, h'.closed ∘ h.closed,
    h'.faithful ∘ h.faithful, h'.shut ∘ h.shut, h'.stopped ∘ h.stopped⟩

/-- A client that has another processor of the same phase. -/
theorem Member.Lasts.ofProcessor {m : Member} {p : Processor} (h : p.phase = m.processor.phase) :
    m.Lasts { m with processor := p } :=
  ⟨rfl, rfl, id, id, id, fun hp => by rwa [h], fun hp => by rwa [h]⟩

namespace World

/-- **Whether nothing is taken back** between two worlds. -/
structure Lasts (w w' : World) : Prop where
  /-- The clients take nothing back. -/
  members : ∀ (k : Nat) (m : Member), w.members[k]? = some m →
    ∃ m', w'.members[k]? = some m' ∧ m.Lasts m'
  /-- Nor do the sessions. -/
  store : w.store.Outlives w'.store

variable {w w' w'' : World} {k n : Nat} {m : Member} {marks marks' : List Mark} {t : Thread}
  {d : Delivery} {j : Job} {reply : StoreReply}

theorem Lasts.refl (w : World) : w.Lasts w :=
  ⟨fun _ m hm => ⟨m, hm, .refl m⟩, Store.outlives_run w.store []⟩

theorem Lasts.trans (h : w.Lasts w') (h' : w'.Lasts w'') : w.Lasts w'' where
  members k m hm := by
    obtain ⟨m', hm', hlasts⟩ := h.members k m hm
    obtain ⟨m'', hm'', hlasts'⟩ := h'.members k m' hm'
    exact ⟨m'', hm'', hlasts.trans hlasts'⟩
  store := h.store.trans h'.store

/-- A world with the same clients and the same store. -/
theorem Lasts.of_eq (hmembers : w'.members = w.members) (hstore : w'.store = w.store) :
    w.Lasts w' :=
  ⟨fun _ m hm => ⟨m, hmembers ▸ hm, .refl m⟩, hstore ▸ Store.outlives_run w.store []⟩

theorem lasts_updateMember {f : Member → Member}
    (hf : ∀ m, w.members[k]? = some m → m.Lasts (f m)) : w.Lasts (w.updateMember k f) where
  members i m hm := by
    by_cases hi : k = i
    · subst hi
      exact ⟨f m, getElem?_updateMember hm _, hf m hm⟩
    · exact ⟨m, by simp [updateMember, hi, hm], .refl m⟩
  store := Store.outlives_run w.store []

/-! ## The foreground -/

/-- Whether some work asks the store for nothing but requests, and changes nothing of a client but
what it has ensured and how long it has waited. -/
structure IsPlain {α : Type} (work : Work α) : Prop where
  /-- The client keeps its settings. -/
  settings : ∀ link c s, (work link c s).2.1.settings = c.settings
  /-- The client does not forget its root. -/
  rooted : ∀ link c s, c.IsRooted → (work link c s).2.1.IsRooted
  /-- What the requests keep, the work keeps. -/
  keeps : ∀ {P : Store × Tampering → Prop} {link c s}, (∀ s r, P s → P (link.submit s r).2) →
    (∀ s rs, P s → P (link.multi s rs).2) → P s → P (work link c s).2.2

theorem isPlain_perform (k : Task) : IsPlain fun link c s => c.perform link k s where
  settings link c s := Client.settings_perform link c k s
  rooted _ _ s h := Client.isRooted_perform h k s
  keeps hsubmit hmulti h :=
    Client.perform_keeps (fun _ _ s => hsubmit s _) (fun _ _ s => hmulti s _) h

theorem isPlain_execute (o : Operation) : IsPlain fun link c s => c.execute link o s :=
  ⟨(isPlain_perform (.execute o)).settings, (isPlain_perform (.execute o)).rooted,
    (isPlain_perform (.execute o)).keeps⟩

theorem isPlain_ensureRootOnce : IsPlain ensureRootOnce where
  settings link c s := by
    unfold ensureRootOnce
    split
    · rfl
    · simp only [Ensurer.ensureOnce, Client.settings, Ensurer.blank_ensureBy]
  rooted link c s h := by
    unfold ensureRootOnce
    split
    · exact h
    · intro root hroot
      obtain ⟨hvalid, hensured⟩ := h root hroot
      exact ⟨hvalid, Ensurer.isEnsured_ensureOnce hensured ..⟩
  keeps {P link c s} hsubmit _ h := by
    unfold ensureRootOnce
    split
    · exact h
    · exact Ensurer.ensureOnce_keeps hsubmit h

/-- A request over a line leaves all sessions as they are. -/
theorem lasts_submit (s : Session) (x : Store × Tampering) (r : Request) :
    x.1.Outlives ((Tampering.link s).submit x r).2.1 ∧
      (x.2.IsFaithful → ((Tampering.link s).submit x r).2.2.IsFaithful) := by
  refine ⟨(Store.sameSessions_submit x.1 s r).outlives, fun h => ?_⟩
  simp only [Tampering.link, Tampering.single_of_isFaithful h]
  exact h

/-- A batch over a line leaves all sessions as they are. -/
theorem lasts_multi (s : Session) (x : Store × Tampering) (rs : List Request) :
    x.1.Outlives ((Tampering.link s).multi x rs).2.1 ∧
      (x.2.IsFaithful → ((Tampering.link s).multi x rs).2.2.IsFaithful) := by
  refine ⟨(Store.sameSessions_multi x.1 s rs).outlives, fun h => ?_⟩
  simp only [Tampering.link, Tampering.batch_of_isFaithful h]
  exact h

/-- **Plain work in the foreground takes nothing back.** -/
theorem lasts_foreground {α : Type} {work : Work α} (hwork : IsPlain work)
    (hm : w.members[k]? = some m) : w.Lasts (w.foreground k m work).2 := by
  have hsettings := hwork.settings (Tampering.link m.session) m.client (w.store, m.tampering)
  have hrooted := hwork.rooted (Tampering.link m.session) m.client (w.store, m.tampering)
  obtain ⟨hstore, hfaithful⟩ := hwork.keeps (c := m.client) (s := (w.store, m.tampering))
    (P := fun x => w.store.Outlives x.1 ∧ (m.tampering.IsFaithful → x.2.IsFaithful))
    (fun x r hx => ⟨hx.1.trans (lasts_submit m.session x r).1,
      fun h => (lasts_submit m.session x r).2 (hx.2 h)⟩)
    (fun x rs hx => ⟨hx.1.trans (lasts_multi m.session x rs).1,
      fun h => (lasts_multi m.session x rs).2 (hx.2 h)⟩)
    ⟨Store.outlives_run w.store [], id⟩
  unfold foreground
  generalize work (Tampering.link m.session) m.client (w.store, m.tampering) = y at *
  obtain ⟨a, client, store, tampering⟩ := y
  have hspace : client.settings.space = m.client.settings.space := congrArg (·.space) hsettings
  have hclosed : client.settings.closed = m.client.settings.closed := congrArg (·.closed) hsettings
  constructor
  · intro i m' hm'
    by_cases hi : k = i
    · subst hi
      obtain rfl : m = m' := by simpa [hm] using hm'
      exact ⟨{ m with client, tampering }, getElem?_updateMember hm _, rfl,
        hspace, hrooted, fun h => hclosed.trans h, hfaithful, id, id⟩
    · exact ⟨m', by simp [updateMember, hi, hm'], .refl m'⟩
  · exact hstore

/-! ## Delivering -/

theorem lasts_tellings (w : World) (k ticket : Nat) (t : Thread) (tellings : List Telling) :
    w.Lasts (tellings.foldl (tell k ticket t) w) := by
  induction tellings generalizing w with
  | nil => exact .refl w
  | cons x tellings ih =>
    have hx : w.Lasts (tell k ticket t w x) := by
      cases x with
      | callback | callError => exact .of_eq rfl rfl
      | listener | clientError =>
        exact lasts_updateMember fun m _ => ⟨rfl, rfl, id, id, id, id, id⟩
    exact hx.trans (ih _)

theorem lasts_note (w : World) (k : Nat) (t : Thread) (d : Delivery) : w.Lasts (w.note k t d) := by
  unfold note
  split
  · exact .refl w
  · exact (lasts_tellings w k d.ticket t _).trans (.of_eq rfl rfl)

theorem phase_shutdown (p : Processor) : p.shutdown.phase = p.phase := by
  unfold Processor.shutdown
  repeat' split
  all_goals rfl

theorem lasts_beginClose (w : World) (k : Nat) : w.Lasts (w.beginClose k) := by
  refine lasts_updateMember fun m _ => ⟨rfl, rfl, id, fun _ => rfl, id, fun h => ?_, fun h => ?_⟩
  · rwa [phase_shutdown]
  · rwa [phase_shutdown]

theorem lasts_endClose (w : World) (k : Nat) : w.Lasts (w.endClose k) := by
  unfold endClose
  split
  · exact .refl w
  · exact ⟨fun _ m hm => ⟨m, hm, .refl m⟩, Store.outlives_next w.store (.close _)⟩

theorem lasts_react (hm : w.members[k]? = some m) (r : Reaction) : w.Lasts (w.react k m r) := by
  unfold react
  split
  · split
    · exact .refl w
    · exact (lasts_beginClose w k).trans (lasts_endClose _ k)
  · exact lasts_foreground (isPlain_execute _) hm
  · exact .refl w

theorem lasts_run (w : World) (k : Nat) (t : Thread) (d : Delivery) : w.Lasts (w.run k t d) := by
  unfold run
  split
  · rename_i hm _
    exact (lasts_react hm _).trans (lasts_note ..)
  · exact lasts_note w k t d

theorem lasts_handOver (w : World) (id : WorkerId) (k : Nat) (d : Delivery) :
    w.Lasts (w.handOver id k d) := by
  unfold handOver
  split <;> exact .of_eq rfl rfl

theorem lasts_deliver (w : World) (k : Nat) (t : Thread) (j : Job) (e : Event) :
    w.Lasts (w.deliver k t j e) := by
  unfold deliver
  dsimp only
  split
  · exact lasts_handOver ..
  · split
    · exact lasts_run ..
    · exact lasts_handOver ..

/-! ## Attempts -/

theorem lasts_finish (w : World) (k : Nat) (t : Thread) (j : Job) (reply : StoreReply) :
    w.Lasts (w.finish k t j reply) := by
  unfold finish
  split
  · exact .refl w
  · split
    · exact lasts_deliver ..
    · exact (lasts_tellings w k j.ticket t _).trans (lasts_deliver ..)

theorem lasts_complete (w : World) (k : Nat) (t : Thread) (j : Job) (reply : StoreReply) :
    w.Lasts (w.complete k t j reply) := by
  unfold complete
  split
  · exact .refl w
  · rename_i m hm
    split
    · rename_i p hp
      have hphase : p.phase = m.processor.phase := by
        unfold Processor.complete? at hp
        split at hp
        · cases hp
          rfl
        · cases hp
      refine lasts_updateMember fun m' hm' => ?_
      obtain rfl : m = m' := by simpa [hm] using hm'
      exact .ofProcessor hphase
    · exact lasts_finish ..

theorem lasts_receive (w : World) (r : IncomingReply) : w.Lasts (w.receive r) := by
  unfold receive
  split
  · exact .refl w
  · rename_i m hm
    have hfaithful : m.tampering.IsFaithful → (tampered m.tampering r.reply).2.IsFaithful := by
      intro h
      rwa [tampered_of_isFaithful h]
    generalize tampered m.tampering r.reply = y at hfaithful ⊢
    obtain ⟨reply, tampering⟩ := y
    have htampered : w.Lasts (w.updateMember r.client fun m => { m with tampering }) := by
      refine lasts_updateMember fun m' hm' => ?_
      obtain rfl : m = m' := by simpa [hm] using hm'
      exact ⟨rfl, rfl, id, id, hfaithful, id, id⟩
    dsimp only
    split
    · exact htampered.trans (lasts_updateMember fun _ _ => ⟨rfl, rfl, id, id, id, id, id⟩)
    · exact htampered.trans (lasts_complete ..)

theorem lasts_release (w : World) (k : Nat) : w.Lasts (w.release k).2 := by
  unfold release
  split
  · refine (lasts_updateMember fun _ _ => ?_).trans (lasts_complete ..)
    exact ⟨rfl, rfl, id, id, id, id, id⟩
  · exact .refl w

theorem lasts_send (w : World) (k : Nat) (m : Member) (j : Job) : w.Lasts (w.send k m j) := by
  unfold send
  split
  · exact ⟨fun _ m hm => ⟨m, hm, .refl m⟩, (Store.sameSessions_submit ..).outlives⟩
  · exact ⟨fun _ m hm => ⟨m, hm, .refl m⟩, (Store.sameSessions_multi ..).outlives⟩

theorem lasts_perform (w : World) (k : Nat) (j : Job) : w.Lasts (w.perform k j) := by
  unfold perform
  split
  · exact .refl w
  · rename_i m hm
    split
    · exact lasts_deliver ..
    · have hrooted := lasts_foreground isPlain_ensureRootOnce hm
      dsimp only
      split
      · rename_i hresult
        rw [hresult] at hrooted
        exact hrooted.trans (lasts_send ..)
      · rename_i hresult
        rw [hresult] at hrooted
        split
        · exact hrooted.trans (lasts_complete ..)
        · exact hrooted.trans (lasts_deliver ..)
      · rename_i hresult
        rw [hresult] at hrooted
        exact hrooted.trans (lasts_deliver ..)

theorem lasts_act (w : World) (k : Nat) (a : Action) : w.Lasts (w.act k a) := by
  cases a with
  | none => exact .refl w
  | perform j => exact lasts_perform ..
  | finish j reply => exact lasts_finish ..

/-! ## Steps -/

/-- A processor goes on and on: it runs, clears up and stops. -/
theorem phase_of_step? {p p' : Processor} {delay? : Job → StoreReply → Option Duration} {now : Nat}
    {a : Action} (h : p.step? delay? now = some (a, p')) :
    (p.phase ≠ .running → p'.phase ≠ .running) ∧ p.phase ≠ .stopped := by
  unfold Processor.step? at h
  split at h
  · rename_i hphase
    exact ⟨fun hp => absurd hphase hp, by simp [hphase]⟩
  · rename_i hphase
    refine ⟨fun _ => ?_, by simp [hphase]⟩
    split at h
    · rename_i message queue _
      cases message <;> cases h <;> simp [hphase]
    · split at h <;> cases h <;> simp [hphase]
  · cases h
  · cases h

/-- **The threads take nothing back.** -/
theorem lasts_progress (h : w.Progress marks w') : w.Lasts w' := by
  cases h with
  | @process k m delay? a processor hm hdelay hstep =>
    refine (lasts_updateMember fun m' hm' => ?_).trans (lasts_act ..)
    obtain rfl : m = m' := by simpa [hm] using hm'
    obtain ⟨hshut, hstopped⟩ := phase_of_step? hstep
    exact ⟨rfl, rfl, id, id, id, hshut, fun h => absurd h hstopped⟩
  | @clear k id m j reply processor hm hphase hqueue hid hprocessor =>
    refine (lasts_updateMember fun m' hm' => ?_).trans (lasts_act ..)
    obtain rfl : m = m' := by simpa [hm] using hm'
    exact .ofProcessor (by rw [hprocessor])
  | @receive r front back hincoming =>
    have htaken : w.Lasts { w with incoming := front ++ back } := .of_eq rfl rfl
    exact htaken.trans (lasts_receive ..)
  | release _ => exact lasts_release ..
  | @deliver i w' hstep =>
    cases serves_of_stepWorker? hstep with
    | gone => exact .of_eq rfl rfl
    | resumes => exact ((lasts_endClose ..).trans (lasts_note ..)).trans (.of_eq rfl rfl)
    | waits => exact (lasts_beginClose ..).trans (.of_eq rfl rfl)
    | runs => exact (lasts_run ..).trans (.of_eq rfl rfl)

theorem lasts_enqueue {payload : Payload} {mode : Mode} (hm : w.members[k]? = some m)
    (h : w.enqueue k m payload mode = (.ok n, w')) : w.Lasts w' := by
  unfold enqueue at h
  dsimp only at h
  split at h
  · cases h
  · rename_i p hp
    cases h
    have hphase : p.phase = m.processor.phase := by
      unfold Processor.enqueue? at hp
      split at hp
      · cases hp
        rfl
      · cases hp
    have hcounted (log : CallLog) : w.Lasts { w with calls := w.calls ++ [log] } := .of_eq rfl rfl
    refine (hcounted _).trans (lasts_updateMember fun m' hm' => ?_)
    obtain rfl : m = m' := by simpa [hm] using hm'
    exact .ofProcessor hphase

theorem lasts_start {s : Session} {t : Tampering} {c : Config} (h : w.start s t c = .ok (k, w')) :
    w.Lasts w' := by
  unfold start at h
  cases hstart : Client.start c with
  | error f => rw [hstart] at h; cases h
  | ok client =>
    rw [hstart] at h
    cases h
    refine ⟨fun i m hm => ⟨m, ?_, .refl m⟩, Store.outlives_run w.store []⟩
    rw [List.getElem?_append_left (List.getElem?_eq_some_iff.mp hm).1, hm]

/-! ## Runs -/

/-- A step that takes nothing back: what happens elsewhere must not. -/
structure Goes (w : World) (marks : List Mark) (w' : World) : Prop where
  /-- It is a step. -/
  step : w.Step marks w'
  /-- What happens elsewhere takes nothing back. -/
  elsewhere : w.Elsewhere w' → w.Lasts w'

/-- **A step takes nothing back**, unless something happens elsewhere that does. -/
theorem Goes.lasts (h : w.Goes marks w') : w.Lasts w' := by
  cases h.step with
  | progress h => exact lasts_progress h
  | accept hm h => exact lasts_enqueue hm h
  | shutdown k => exact lasts_beginClose w k
  | start h => exact lasts_start h
  | elsewhere h' => exact h.elsewhere h'

theorem goes_progress (h : w.Progress marks w') : w.Goes marks w' :=
  ⟨.progress h, fun _ => lasts_progress h⟩

theorem goes_beginClose (w : World) (k : Nat) : w.Goes [] (w.beginClose k) :=
  ⟨.shutdown k, fun _ => lasts_beginClose w k⟩

theorem elsewhere_endClose (w : World) (k : Nat) : w.Elsewhere (w.endClose k) := by
  unfold endClose
  split <;> exact ⟨Nat.le_refl _, rfl, rfl, rfl, rfl⟩

theorem goes_endClose (w : World) (k : Nat) : w.Goes [] (w.endClose k) :=
  ⟨.elsewhere (elsewhere_endClose w k), fun _ => lasts_endClose w k⟩

/-- What is done in the foreground happens elsewhere. -/
theorem elsewhere_foreground {α : Type} (w : World) (k : Nat) (m : Member) (work : Work α) :
    w.Elsewhere (w.foreground k m work).2 := by
  unfold foreground
  generalize work (Tampering.link m.session) m.client (w.store, m.tampering) = y
  obtain ⟨a, client, store, tampering⟩ := y
  refine ⟨Nat.le_add_right .., ?_, rfl, rfl, rfl⟩
  exact map_modify_of_eq (f := fun m : Member => (m.processor, m.held))
    (g := fun m => { m with client, tampering }) (fun _ => rfl) w.members k

/-- **A task in the foreground is a step that takes nothing back.** -/
theorem goes_foreground (k : Task) {i : Nat} (hm : w.members[i]? = some m) :
    w.Goes [] (w.foreground i m fun link c s => c.perform link k s).2 :=
  ⟨.elsewhere (elsewhere_foreground ..), fun _ => lasts_foreground (isPlain_perform k) hm⟩

/-- **So is a move of the store.** -/
theorem goes_move (w : World) (m : Store.Move) : w.Goes [] { w with store := m.next w.store } := by
  refine ⟨.elsewhere ⟨Nat.le_refl _, rfl, rfl, rfl, rfl⟩, fun _ => ⟨fun _ m hm => ?_, ?_⟩⟩
  · exact ⟨m, hm, .refl m⟩
  · exact Store.outlives_next w.store m

/-- So many steps that take nothing back, through worlds of which something holds. -/
inductive Runs (Q : World → Prop) (w : World) : List Mark → World → Prop
  | refl (h : Q w) : Runs Q w [] w
  | tail {marks marks' : List Mark} {w' w'' : World} (h : Runs Q w marks w')
      (h' : w'.Goes marks' w'') (hQ : Q w'') : Runs Q w (marks ++ marks') w''

variable {Q : World → Prop}

theorem Runs.holds (h : w.Runs Q marks w') : Q w' := by
  cases h with
  | refl h => exact h
  | tail _ _ hQ => exact hQ

theorem Runs.lasts (h : w.Runs Q marks w') : w.Lasts w' := by
  induction h with
  | refl => exact .refl w
  | tail _ h' _ ih => exact ih.trans h'.lasts

theorem Runs.steps (h : w.Runs Q marks w') : w.Steps marks w' := by
  induction h with
  | refl => exact .refl
  | tail _ h' _ ih => exact ih.tail h'.step

theorem Runs.trans (h : w.Runs Q marks w') (h' : w'.Runs Q marks' w'') :
    w.Runs Q (marks ++ marks') w'' := by
  induction h' with
  | refl => rwa [List.append_nil]
  | tail _ hgoes hQ ih => exact List.append_assoc .. ▸ ih.tail hgoes hQ

/-- What holds all along holds at first. -/
theorem Runs.first (h : w.Runs Q marks w') : Q w := by
  induction h with
  | refl h => exact h
  | tail _ _ _ ih => exact ih

theorem Runs.mono {Q' : World → Prop} (hQ : ∀ w, Q w → Q' w) (h : w.Runs Q marks w') :
    w.Runs Q' marks w' := by
  induction h with
  | refl h => exact .refl (hQ _ h)
  | tail _ hgoes h ih => exact ih.tail hgoes (hQ _ h)

/-- **The schedule is a run**, through worlds of which something holds. -/
theorem runs_settleFor (n : Nat) (w : World) (htimely : ∀ i < n, (settleFor i w).IsTimely)
    (hQ : ∀ i ≤ n, Q (settleFor i w)) : w.Runs Q (settleMarks n w) (settleFor n w) := by
  refine settleFor_induction n w (fun i hi => .refl (hQ i hi)) fun i hi w' _ w'' hstep hrest => ?_
  have hfirst := goes_progress (progress_of_step? (htimely i hi) hstep)
  exact ((Runs.refl (hQ i (Nat.le_of_lt hi))).tail hfirst hrest.first).trans hrest

/-- Whether a session of a store that moves lead to has been opened and has not ended. -/
structure HasLive (s : Session) (w : World) : Prop where
  /-- The store is one that moves lead to. -/
  reachable : w.store.Reachable
  /-- The session has been opened, and has neither been closed nor expired. -/
  live : w.store.IsLive s.id

theorem HasLive.isConnected {s : Session} (h : w.HasLive s) : w.store.isConnected s :=
  Store.isConnected_iff_notMem.mpr ⟨h.live.notClosed, h.live.notExpired⟩

/-- A client may close its session while that is live. -/
theorem HasLive.reachable_endClose (h : w.HasLive m.session) (hm : w.members[k]? = some m) :
    (w.endClose k).store.Reachable := by
  simp only [endClose, hm]
  exact h.reachable.move (.close m.session) ⟨h.live.pos, h.live.opened⟩

end World

end Coordination
