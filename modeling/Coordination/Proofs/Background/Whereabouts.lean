import Coordination.Proofs.Background.ExactlyOnce
import Coordination.Proofs.Background.Rejections
import Coordination.Proofs.Background.Repeats
import Coordination.Proofs.Client.Containment

/-!
# Where the nodes of a client are

Whatever a client is asked for, in the foreground or in the background, in whatever order things
happen and however often it tries: what it asks the store for is the payload that it has prepared,
which consists of the requests of its caller's operations, moved into the namespace. So the nodes
that the store creates for its callers are in the namespace, but for the numbered siblings of the
root.

## Main definitions

* `Payload.requests`, `Client.Prepares`: what a client prepares for a task
* `World.Queues`: a client leaves a task to its processor

## Main results

* `Payload.exists_creates`: a node that is new after a payload has been created by it
* `Client.Prepares.exists_iterate`: what a client asks for in the foreground
* `World.store_perform`: what a processor asks for
* `World.Reached.contains_iff`: where the nodes are that are created for a task
-/

namespace Coordination

/-! ## Payloads -/

/-- The requests of a payload. -/
def Payload.requests : Payload → List Request
  | single r _ => [r]
  | batch b => b.requests

namespace Tree

variable {t t' : Tree} {s : Session} {stamp : Int} {r : Request} {a : Answer} {q : String}

/-- A node that is new has been created. -/
theorem Applied.exists_created (h : t.Applied s stamp r a t') (hold : t.node? q = none)
    (hnew : (t'.node? q).isSome) : ∃ stat, a = .created q stat := by
  -- the nodes that are not touched are as new as before
  obtain rfl : q = r.target a := by
    by_contra hne
    have hfooting := h.footing?_eq hne
    have hnew' := Tree.isSome_footing?.mpr hnew
    rw [hfooting, Tree.isSome_footing?, hold] at hnew'
    cases hnew'
  cases h with
  | created => exact ⟨_, rfl⟩
  | deleted htype hvalid habove hparent hnode =>
    have hthere := hnode.symm.trans hold
    cases hthere
  | dataSet hvalid hnode =>
    have hthere := hnode.symm.trans hold
    cases hthere
  | checked =>
    rw [hold] at hnew
    cases hnew

/-- What is new after a batch has been created by one of its requests. -/
theorem exists_stage_of_new {rs : List Request} (hold : t.node? q = none)
    (hnew : ((t.final (t.stages s stamp rs)).node? q).isSome) :
    ∃ r stat t', ⟨some (r, .created q stat), t'⟩ ∈ t.stages s stamp rs := by
  induction rs generalizing t with
  | nil =>
    rw [stages, final, hold] at hnew
    cases hnew
  | cons r rs ih =>
    rw [stages] at hnew ⊢
    split at hnew
    · rw [final, hold] at hnew
      cases hnew
    · rename_i a t' happly
      cases hnode : t'.node? q with
      | none =>
        obtain ⟨r', stat, t'', hstage⟩ := ih hnode hnew
        exact ⟨r', stat, t'', List.mem_cons_of_mem _ hstage⟩
      | some node =>
        have happlied := apply_eq_ok_iff.mp happly
        obtain ⟨stat, rfl⟩ := happlied.exists_created hold (by rw [hnode]; rfl)
        exact ⟨r, stat, t', List.mem_cons_self⟩

end Tree

/-- **A node that is new after a payload has been created by it.** -/
theorem Payload.exists_creates {p : Payload} {s : Session} {st : Store} {q : String}
    (hold : st.tree.node? q = none) (hnew : ((p.ask s st).2.tree.node? q).isSome) :
    ∃ r, st.Creates s p.requests r q := by
  obtain ⟨z, hz⟩ : ∃ z, (p.ask s st).2.tree =
      { st.tree.final (st.asked s p.requests) with transaction := z } := by
    cases p with
    | single r path => exact Store.exists_tree_submit st s r
    | batch b => exact Store.exists_tree_multi st s b.requests
  rw [hz] at hnew
  have hnew' : ((st.tree.final (st.asked s p.requests)).node? q).isSome := hnew
  unfold Store.Creates
  unfold Store.asked at hnew' ⊢
  split at hnew'
  · rename_i hin
    obtain ⟨r, stat, t, hstage⟩ := Tree.exists_stage_of_new hold hnew'
    exact ⟨r, stat, t, by rwa [if_pos hin]⟩
  · rw [Tree.final, hold] at hnew'
    cases hnew'

/-! ## What a client asks for -/

namespace Client

variable {c : Client} {k : Task} {p : Payload}

/-- **What a client prepares for a task.** -/
inductive Prepares (c : Client) : Task → Payload → Prop where
  /-- For an operation its request. -/
  | execute {o : Operation} {r : Request} (h : c.prepare o = .ok r) :
      Prepares c (.execute o) (.single r o.path)
  /-- For a transaction its batch. -/
  | submit {os : List Operation} {b : Batch} (h : c.prepareBatch os = .ok b) :
      Prepares c (.submit os) (.batch b)

/-- A call whose attempts ask for the same asks for it some number of times. -/
theorem exists_iterate_of_call {α : Type} {s : Session} {x : Store × Tampering} {f : Store → Store}
    {attempt : Nat → Store × Tampering → Except StoreError α × Store × Tampering}
    (hattempt : ∀ n y, (attempt n y).2.1 = f y.1) :
    ∃ n, (c.call (Tampering.link s) attempt x).2.2.1 =
      f^[n] (c.ensureRoot (Tampering.link s) x).2.2.1 := by
  refine call_keeps (P := fun y : Store × Tampering =>
    ∃ n, y.1 = f^[n] (c.ensureRoot (Tampering.link s) x).2.2.1) ⟨0, rfl⟩ ?_
  rintro i y ⟨n, hn⟩
  exact ⟨n + 1, by rw [hattempt, hn, Function.iterate_succ_apply']⟩

namespace Prepares

/-- A payload consists of the requests of the operations. -/
theorem requests_eq (h : c.Prepares k p) : p.requests = k.operations.map c.request := by
  cases h with
  | execute h =>
    obtain rfl := eq_request_of_prepare h
    rfl
  | submit h =>
    obtain rfl := eq_entries_of_prepareBatch h
    exact requests_entries c _

theorem isValid (h : c.Prepares k p) : ∀ o ∈ k.operations, Path.isValid o.path := by
  cases h with
  | execute h =>
    intro o ho
    obtain rfl := List.mem_singleton.mp ho
    exact isValid_of_prepare h
  | submit h => exact isValid_of_prepareBatch h

/-- **In the foreground the payload is asked for**, some number of times, once the root has been
ensured. -/
theorem exists_iterate (h : c.Prepares k p) (hopen : c.closed = false) (s : Session)
    (x : Store × Tampering) :
    ∃ n, (c.perform (Tampering.link s) k x).2.2.1 =
      (fun st => (p.ask s st).2)^[n] (c.ensureRoot (Tampering.link s) x).2.2.1 := by
  have hcheck : c.checkOpen = .ok () := by rw [checkOpen, hopen, if_neg Bool.false_ne_true]
  cases h with
  | execute h =>
    simp only [perform, Client.execute, hcheck, h]
    exact exists_iterate_of_call fun _ _ => rfl
  | submit h =>
    simp only [perform, Client.submit, hcheck, h]
    exact exists_iterate_of_call fun _ _ => rfl

end Prepares

end Client

namespace World

variable {w w' w₁ w₂ : World} {k n : Nat} {m : Member} {mode : Mode} {j : Job} {p : Payload}
  {task : Task} {marks : List Mark} {name : String}

/-- **Whether a client leaves a task to its processor**, under a number. -/
inductive Queues (w : World) (k : Nat) (m : Member) (mode : Mode) (n : Nat) (w' : World) :
    Task → Prop where
  | execute {o : Operation} (h : w.execute k m o mode = (.ok (.queued n), w')) :
      Queues w k m mode n w' (.execute o)
  | submit {os : List Operation} (h : w.submit k m os mode = (.ok (.queued n), w')) :
      Queues w k m mode n w' (.submit os)

theorem enqueue_of_later {α : Type} {prepared : Except Failure Payload}
    (hp : prepared = .ok p) (h : w.later α k m prepared mode = (.ok (.queued n), w')) :
    w.enqueue k m p mode = (.ok n, w') := by
  subst hp
  cases hopen : m.client.closed with
  | true =>
    rw [later_of_closed hopen] at h
    cases h
  | false =>
    rw [later_of_ok hopen] at h
    rcases henqueue : w.enqueue k m p mode with ⟨f | n', w''⟩
    · rw [henqueue] at h
      cases h
    · rw [henqueue] at h
      cases h
      rfl

theorem atOnce_ne_queued {α : Type} (work : Work (Except Failure α)) (n : Nat) :
    (w.atOnce k m work).1 ≠ .ok (.queued n) := by
  unfold atOnce
  cases (w.foreground k m work).1 with
  | error f => rintro ⟨⟩
  | ok a => rintro ⟨⟩

/-- What is left to a processor is what has been prepared. -/
theorem Queues.enqueue (h : w.Queues k m mode n w' task) (hp : m.client.Prepares task p) :
    w.enqueue k m p mode = (.ok n, w') := by
  cases hmode : mode.background with
  | true =>
    cases h with
    | execute h =>
      obtain hr | _ := hp
      rw [execute_background hmode] at h
      exact enqueue_of_later (by rw [hr]; rfl) h
    | submit h =>
      obtain _ | hb := hp
      rw [submit_background hmode] at h
      exact enqueue_of_later (by rw [hb]; rfl) h
  | false =>
    -- what is run at once is not queued
    cases h with
    | execute h =>
      rw [execute_atOnce hmode] at h
      exact absurd (congrArg Prod.fst h) (atOnce_ne_queued _ n)
    | submit h =>
      rw [submit_atOnce hmode] at h
      exact absurd (congrArg Prod.fst h) (atOnce_ne_queued _ n)

/-- A request is sent only if the call is open and the root has been seen to. -/
theorem rooted_of_sent (hm : w.members[k]? = some m)
    (hsent : .sent j.ticket ∈ w.marks k (.perform j)) :
    j.decided = none ∧ (w.foreground k m ensureRootOnce).1 = .ok () := by
  simp only [marks, hm] at hsent
  split at hsent
  · rename_i m' _ hm' hdecided
    obtain rfl := Option.some.inj hm'
    refine ⟨hdecided, ?_⟩
    split at hsent
    · assumption
    · split at hsent
      · cases List.mem_singleton.mp hsent
      · cases hsent
    · cases hsent
  · cases hsent

/-- **A processor asks the store for the payload of the call**, once it has seen to the root. -/
theorem store_perform (hm : w.members[k]? = some m)
    (hsent : .sent j.ticket ∈ w.marks k (.perform j)) :
    (w.perform k j).store =
      (j.payload.ask m.session (w.foreground k m ensureRootOnce).2.store).2 := by
  obtain ⟨hdecided, hroot⟩ := rooted_of_sent hm hsent
  simp only [perform, hm, hdecided]
  generalize w.foreground k m ensureRootOnce = y at hroot ⊢
  obtain ⟨result, w'⟩ := y
  obtain rfl : result = .ok () := hroot
  dsimp only
  unfold send Payload.ask
  cases hpayload : j.payload with
  | single r path => simp only [Job.begun, hpayload]
  | batch b => simp only [Job.begun, hpayload]

/-- **Where the nodes are that are created for a task.** A node that is new after the task's payload
has been created by it, for one of the operations; it is in the namespace, and what is told of it
leads back to it, just if that operation asks for no numbered sibling of the root. In the foreground
the payload is all that is asked for once the root has been ensured, and in the background the call
keeps it at all times, and it is what the processor asks for. -/
theorem Reached.contains_iff (h : Reached marks w) (hm : w.members[k]? = some m)
    (hspace : Namespace.ofName? name = some m.client.space) (hp : m.client.Prepares task p) :
    (∀ st s q,
      (st.tree.node? q = none → ((p.ask s st).2.tree.node? q).isSome →
        ∃ r, st.Creates s p.requests r q) ∧
      ∀ r, st.Creates s p.requests r q → ∃ o ∈ task.operations, r = m.client.request o ∧
        (m.client.space.Contains q ↔ ¬ o.NumbersRoot) ∧
        (m.client.space.fix (m.client.space.unfix q) = q ↔ ¬ o.NumbersRoot)) ∧
    (m.client.closed = false → ∀ x, ∃ n,
      (m.client.perform (Tampering.link m.session) task x).2.2.1 =
        (fun st => (p.ask m.session st).2)^[n]
          (m.client.ensureRoot (Tampering.link m.session) x).2.2.1) ∧
    (∀ mode n w₁, w.Queues k m mode n w₁ task → ∀ later w₂, w₁.Steps later w₂ →
      (∃ x, w₂.placesOf n = {x} ∧ x.IsOf ⟨k, n, p, mode⟩) ∧
      ∀ j m₂, j.call k = ⟨k, n, p, mode⟩ → w₂.members[k]? = some m₂ →
        .sent n ∈ w₂.marks k (.perform j) →
          (w₂.perform k j).store =
            (p.ask m₂.session (w₂.foreground k m₂ ensureRootOnce).2.store).2) ∧
    m.client.TellsCreated := by
  refine ⟨fun st s q => ⟨Payload.exists_creates, fun r hr => ?_⟩, ?_, ?_, m.client.tellsCreated⟩
  · rw [hp.requests_eq] at hr
    exact Client.contains_iff_of_creates hspace hp.isValid hr
  · intro hopen x
    exact hp.exists_iterate hopen m.session x
  · -- the call is handed over as an item, and items keep their calls
    intro mode n w₁ hqueues later w₂ hlater
    have hw := h.accounted
    obtain ⟨-, hmoves, hqueued⟩ := hw.sound.enqueue_eq_ok hm (hqueues.enqueue hp)
    have hw₁ := hw.of_moves hmoves
    constructor
    · obtain ⟨x, hx, hcall⟩ := hlater.exists_isOf hw₁ hqueued
      have hticket : x.ticket = n := hcall.ticket_eq
      exact ⟨x, hticket ▸ (hw₁.steps hlater).placesOf_eq hx, hcall⟩
    · intro j m₂ hj hm₂ hsent
      obtain rfl : j.ticket = n := congrArg Call.ticket hj
      obtain rfl : j.payload = p := congrArg Call.payload hj
      exact store_perform hm₂ hsent

/-! ## A sibling of a root -/

/-- A world with a client of the namespace and a store that is empty. -/
def letting : World := { initial with store := (Store.initial.connect []).2, members := [lodger] }

/-- A numbered sibling of the root. -/
def subletting : Operation := .create "/" ByteArray.empty .persistentSequential none

/-- The store after the client has been asked for the sibling. -/
def sublet : Store :=
  (lodger.client.execute (Store.link ⟨1, []⟩) subletting letting.store).2.2

/-- The node is created next to the root, and under the path that the caller is told there is
nothing. -/
theorem subletting_of_letting :
    (lodger.client.execute (Store.link ⟨1, []⟩) subletting letting.store).1 =
        .ok (.created "/svc0000000001" (some ⟨2, 2, 0, 0, 0, 0, 0, 0⟩)) ∧
      letting.store.tree.node? "/svc0000000001" = none ∧
      (sublet.tree.node? "/svc0000000001").isSome ∧
      ¬ lodger.client.space.Contains "/svc0000000001" ∧
      lodger.client.space.fix (lodger.client.space.unfix "/svc0000000001") =
        "/svc/svc0000000001" ∧
      sublet.tree.node? "/svc/svc0000000001" = none := by
  refine ⟨by decide +kernel, by decide +kernel, by decide +kernel, ?_, by decide +kernel,
    by decide +kernel⟩
  intro h
  exact absurd (h "/svc" rfl) (by decide +kernel)

/-- A numbered node below the root. -/
def flat : Operation := .create "/flat-" ByteArray.empty .persistentSequential none

/-- The call for it in the background. -/
def renting : Job := .fresh 0 (.single (lodger.client.request flat) "/flat-") .inBackground none

/-- The world with the call. -/
def rented : World := (letting.enqueue 0 lodger renting.payload .inBackground).2

/-- The client with the call. -/
def renter : Member := { lodger with processor := Processor.initial.push (.submit renting) }

/-- The store when the processor has seen to the root. -/
def developed : Store := (rented.foreground 0 renter ensureRootOnce).2.store

/-- The processor sees to the root and asks for the node, which is in the namespace then. -/
theorem contains_flat_of_letting :
    Reached [] letting ∧ letting.members[0]? = some lodger ∧
    Namespace.ofName? "svc" = some lodger.client.space ∧
    lodger.client.Prepares (.execute flat) renting.payload ∧
    letting.Queues 0 lodger .inBackground 0 rented (.execute flat) ∧
    (rented.perform 0 renting).store = (renting.payload.ask ⟨1, []⟩ developed).2 ∧
    (∃ r, developed.Creates ⟨1, []⟩ renting.payload.requests r "/svc/flat-0000000000") ∧
    lodger.client.space.Contains "/svc/flat-0000000000" := by
  have hreached : Reached [] letting := reached_lodger _
  have hm : letting.members[0]? = some lodger := rfl
  have hspace : Namespace.ofName? "svc" = some lodger.client.space := by decide +kernel
  have hprepares : lodger.client.Prepares (.execute flat) renting.payload :=
    .execute (by decide +kernel)
  have hqueues : letting.Queues 0 lodger .inBackground 0 rented (.execute flat) := .execute rfl
  obtain ⟨hcreates, -, hqueued, -⟩ := hreached.contains_iff hm hspace hprepares
  obtain ⟨-, hstore⟩ := hqueued _ _ _ hqueues [] _ .refl
  have hasked : (rented.perform 0 renting).store = (renting.payload.ask ⟨1, []⟩ developed).2 :=
    hstore renting renter rfl rfl (by decide +kernel)
  refine ⟨hreached, hm, hspace, hprepares, hqueues, hasked, ?_⟩
  obtain ⟨hnew, hplace⟩ := hcreates developed ⟨1, []⟩ "/svc/flat-0000000000"
  obtain ⟨r, hr⟩ := hnew (by decide +kernel) (by decide +kernel)
  obtain ⟨o, ho, -, hcontains, -⟩ := hplace r hr
  obtain rfl := List.mem_singleton.mp ho
  exact ⟨⟨r, hr⟩, hcontains.mpr (by decide +kernel)⟩

end World

end Coordination
