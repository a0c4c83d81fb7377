import Coordination.Proofs.Client.Operations
import Coordination.Proofs.Client.Repeats
import Coordination.Proofs.Store.Answers

/-!
# What a reported create has done

A create or delete that succeeds leaves the tree that one sending of its request leaves, whatever
requests and answers were lost on the way and whatever the retry policy. That is not to say that the
sending was accepted: if a request is lost before it reaches the tree, the refusal of the next one
is taken for a sign of it. So a create that is reported is the client's own if the tree accepts its
request, or if the node that was there already is no different; and if neither holds, it is not.

## Main definitions

* `Node.IsFor`, `Tree.Holds`: the nodes that a session's request asks for, and the trees that have
  one

## Main results

* `Client.tree_execute_of_ok`: the tree that a create or delete leaves
* `Client.created_iff`: when a create that is reported is the client's own
-/

namespace Coordination

/-- **A node is as a request asks for**: with its data, its access list and its mode, and if it is
ephemeral it is owned by the session that asks. -/
structure Node.IsFor (n : Node) (s : Session) (r : Request) : Prop where
  data : r.data? = some n.data
  acl : r.acl? = some n.acl
  mode : r.mode? = some n.mode
  owner : n.mode.isEphemeral → n.stat.owner = s.id

/-! ## Trees -/

namespace Tree

variable {t t' : Tree} {s : Session} {stamp : Int} {r : Request} {q : String} {stat : Option Stat}
  {a : Answer}

/-- Whether there is a node at a path that is as a request asks for. -/
def Holds (t : Tree) (s : Session) (p : String) (r : Request) : Prop :=
  ∃ node, t.node? p = some node ∧ node.IsFor s r

/-- A request that applies once and is answered with a node has created the node of its path. -/
theorem Applied.holds (h : t.Applied s stamp r (.created q stat) t') (hr : r.appliesOnce) :
    r.type = .create ∧ q = r.path ∧ t'.Holds s r.path r := by
  cases h with
  | @created _ data acl mode above parent hmode hdata hacl hvalid habove hparent hpermits hne
      hlasts hfresh =>
    have htype : r.type = .create := Request.type_of_mode? hmode
    have hseq : mode.isSequential = false := Request.isSequential_of_appliesOnce hr hmode
    have hactual : actualPath parent r.path mode = r.path := by
      rw [actualPath, hseq, if_neg Bool.false_ne_true]
    rw [hactual]
    refine ⟨htype, rfl, _, by rw [node?_attach, if_pos rfl], ?_⟩
    constructor
    · exact hdata
    · exact hacl
    · exact hmode
    · intro hephemeral
      exact if_pos hephemeral

end Tree

/-! ## Calls -/

namespace Client

open Store

variable {σ : Type} {link : Link σ} {P : σ → Prop} {x : σ} {c c' : Client} {s : Session}
  {o : Operation} {st st' : Store} {a : Answer} {p q : String} {stat : Option Stat}

theorem isValid_of_prepare {r : Request} (h : c.prepare o = .ok r) : Path.isValid o.path := by
  unfold prepare Path.check at h
  split at h
  · cases h
  · rename_i hcheck
    by_contra hvalid
    rw [if_neg hvalid] at hcheck
    cases hcheck

/-- An operation that succeeds has a path, in a namespace that has one, and ends with an attempt at
its request. -/
theorem exists_attempt_of_execute
    (hattempt : ∀ n x, P x → P (attempt link (c.request o) n x).2)
    (hroot : P (c.ensureRoot link x).2.2) (h : (c.execute link o x).1 = .ok a) :
    c.space.IsWellFormed ∧ Path.isValid o.path ∧
      ∃ n x₁ answer, P x₁ ∧ a = reported c.space answer ∧
        attempt link (c.request o) n x₁ = (.ok answer, (c.execute link o x).2.2) := by
  obtain ⟨hopen, r, hr⟩ := exists_prepare_of_execute h
  obtain rfl : r = c.request o := eq_request_of_prepare hr
  have hspace : (c.call link (attempt link (c.request o)) x).2.1.space = c.space := space_call _
  have hexecute : c.execute link o x =
      ((c.call link (attempt link (c.request o)) x).1.map (reported c.space),
        (c.call link (attempt link (c.request o)) x).2) := by
    rw [execute, checkOpen, hopen, if_neg Bool.false_ne_true, hr]
    dsimp only
    rw [hspace]
  rw [hexecute] at h ⊢
  cases hcall : (c.call link (attempt link (c.request o)) x).1 with
  | error f =>
    rw [hcall] at h
    cases h
  | ok answer =>
    rw [hcall] at h
    obtain ⟨hensured, n, x₁, hx₁, hlast⟩ := exists_attempt_of_call hattempt hroot hcall
    exact ⟨isWellFormed_of_ensureRoot hensured, isValid_of_prepare hr, n, x₁, answer, hx₁,
      (Except.ok.inj h).symm, hlast⟩

/-- No error that a request can meet on its way to the tree is taken for a sign of an earlier
sending. -/
theorem replayed?_eq_none_of_disrupts {r : Request} {e : StoreError}
    (hfaults : ∀ f ∈ st.faults, f.code.isRetryable) (h : st.Disrupts e) : r.replayed? e = none := by
  cases h with
  | closed => cases r <;> rfl
  | expired => cases r <;> rfl
  | fault f hf =>
    have hretryable : (plainError f.code).isRetryable := hfaults f hf
    exact Request.replayed?_eq_none hretryable

/-- A request that counts as done has met the tree, whether it was accepted or refused there. -/
theorem not_disrupts_of_settled {r : Request} {n : Nat} {e : StoreError}
    (hfaults : ∀ f ∈ st.faults, f.code.isRetryable) (h : r.settled n (st.submit s r).1 = .ok a)
    (he : (st.submit s r).1 = .error e) : ¬ st.Disrupts e := by
  intro hdisrupts
  have hsettled : r.settled n ((Store.link s).submit st r).1 = .ok a := h
  rcases eq_or_replayed_of_settled hsettled with hown | ⟨e', he', hreplayed, -⟩
  · rw [show (st.submit s r).1 = .ok a from hown] at he
    cases he
  · rw [show (st.submit s r).1 = .error e' from he'] at he
    cases he
    rw [replayed?_eq_none_of_disrupts hfaults hdisrupts] at hreplayed
    cases hreplayed

/-- A request that applies once and is answered with a node asks for it. -/
theorem type_and_path_of_settled {r : Request} {n : Nat} (hr : r.appliesOnce)
    (h : r.settled n (st.submit s r).1 = .ok (.created q stat)) :
    r.type = .create ∧ q = r.path := by
  have hsettled : r.settled n ((Store.link s).submit st r).1 = .ok (.created q stat) := h
  rcases eq_or_replayed_of_settled hsettled with hown | ⟨e, -, hreplayed, -⟩
  · obtain ⟨t, happly⟩ := exists_apply_of_submit hown
    obtain ⟨htype, hpath, -⟩ := (Tree.apply_eq_ok_iff.mp happly).holds hr
    exact ⟨htype, hpath⟩
  · -- the answer has been made up from the request
    unfold Request.replayed? at hreplayed
    split at hreplayed
    · split at hreplayed
      · cases hreplayed
      · cases hreplayed
        exact ⟨rfl, rfl⟩
    · cases hreplayed
      exact ⟨rfl, rfl⟩
    all_goals cases hreplayed

/-- **A create or delete that succeeds leaves the tree that one sending of its request leaves.** If
it reports a node, it is a create, and the path of the node is the caller's. -/
theorem tree_execute_of_ok (ho : o.request.appliesOnce)
    (hfaults : ∀ f ∈ st.faults, f.code.isRetryable)
    (h : (c.execute (Store.link s) o st).1 = .ok a) :
    (c.execute (Store.link s) o st).2.2.tree = (c.rooted s st).tree.sent s [c.request o] ∧
      ∀ p stat, a = .created p stat → o.request.type = .create ∧ p = o.path := by
  have hr : (c.request o).appliesOnce := by rwa [appliesOnce_request]
  have hmutation := Request.isMutation_of_appliesOnce hr
  -- every attempt sends the request once or not at all, and meets faults that are worth a retry
  let P : Store → Prop := fun st' =>
    (∃ k, st'.tree = (c.rooted s st).tree.sentTimes s [c.request o] k) ∧
      ∀ f ∈ st'.faults, f.code.isRetryable
  have hattempt : ∀ n st', P st' → P (attempt (Store.link s) (c.request o) n st').2 := by
    rintro n st' ⟨⟨k, hk⟩, hst'⟩
    obtain ⟨j, hj⟩ := exists_sentTimes_of_submit hmutation st' s
    refine ⟨⟨k + j, ?_⟩, fun f hf => hst' f (mem_faults_of_submit hf)⟩
    rw [Tree.sentTimes_add, ← hk]
    exact hj
  have hroot : P (c.rooted s st) :=
    ⟨⟨0, rfl⟩, ensureRoot_preserves (P := fun st' : Store => ∀ f ∈ st'.faults, f.code.isRetryable)
      (fun st' r hst' f hf => hst' f (mem_faults_of_submit hf)) hfaults⟩
  obtain ⟨hspace, hpath, n, st₁, answer, ⟨⟨k, hk⟩, hst₁⟩, rfl, hlast⟩ :=
    exists_attempt_of_execute hattempt hroot h
  have hsettled : (c.request o).settled n ((Store.link s).submit st₁ (c.request o)).1 =
      .ok answer := congrArg Prod.fst hlast
  have htree : (c.execute (Store.link s) o st).2.2.tree = (st₁.submit s (c.request o)).2.tree :=
    congrArg Store.tree (congrArg Prod.snd hlast).symm
  have hundisrupted : ∀ e, (st₁.submit s (c.request o)).1 = .error e → ¬ st₁.Disrupts e :=
    fun _ he => not_disrupts_of_settled hst₁ hsettled he
  constructor
  · rw [htree, tree_submit_of_undisrupted hmutation hundisrupted, hk]
    calc (Tree.sentTimes s [c.request o] k (c.rooted s st).tree).sent s [c.request o]
        = Tree.sentTimes s [c.request o] (k + 1) (c.rooted s st).tree := by
          rw [Tree.sentTimes_add]
          rfl
      _ = (c.rooted s st).tree.sent s [c.request o] := Tree.sentTimes_succ hr k
  · intro p stat hp
    cases answer with
    | created q =>
      obtain ⟨rfl, rfl⟩ : c.space.unfix q = p ∧ _ := by simpa [reported] using hp
      obtain ⟨htype, rfl⟩ : (c.request o).type = .create ∧ q = (c.request o).path :=
        type_and_path_of_settled hr hsettled
      refine ⟨by rwa [type_request] at htype, ?_⟩
      rw [path_request]
      exact hspace.unfix_fix hpath
    | _ => cases hp

theorem isFor_request_iff {n : Node} :
    n.IsFor s (c.request o) ↔ n.IsFor s (o.resolved c.config.acl) := by
  have hdata : (c.request o).data? = (o.resolved c.config.acl).data? :=
    Request.data?_withPath _ _
  have hacl : (c.request o).acl? = (o.resolved c.config.acl).acl? := Request.acl?_withPath _ _
  have hmode : (c.request o).mode? = (o.resolved c.config.acl).mode? :=
    Request.mode?_withPath _ _
  constructor
  · rintro ⟨h₁, h₂, h₃, h₄⟩
    exact ⟨hdata ▸ h₁, hacl ▸ h₂, hmode ▸ h₃, h₄⟩
  · rintro ⟨h₁, h₂, h₃, h₄⟩
    exact ⟨hdata ▸ h₁, hacl ▸ h₂, hmode ▸ h₃, h₄⟩

/-- **A create that is reported is the client's own** if the tree accepts its request when the root
of the namespace has been ensured, or if it holds such a node already; and only then. -/
theorem created_iff (ho : o.request.appliesOnce) (hfaults : ∀ f ∈ st.faults, f.code.isRetryable)
    (h : c.execute (Store.link s) o st = (.ok (.created p stat), c', st')) :
    p = o.path ∧
      (st'.tree.Holds s (c.space.fix p) (o.resolved c.config.acl) ↔
        (c.rooted s st).tree.accepts s [c.request o] ∨
          (c.rooted s st).tree.Holds s (c.space.fix p) (o.resolved c.config.acl)) := by
  obtain ⟨htree, hpath⟩ := tree_execute_of_ok ho hfaults (congrArg Prod.fst h)
  obtain ⟨htype, rfl⟩ := hpath p stat rfl
  rw [h] at htree
  refine ⟨rfl, ?_⟩
  rw [show st'.tree = _ from htree]
  cases happly : (c.rooted s st).tree.apply s ((c.rooted s st).tree.transaction + 1)
      (c.request o) with
  | error code =>
    -- the tree is as it was, and so is the node
    have hrefused : (c.rooted s st).tree.accepts s [c.request o] = false :=
      Tree.accepts_of_refused happly
    rw [hrefused, Tree.sent_of_refused hrefused]
    simp
  | ok result =>
    obtain ⟨answer, t⟩ := result
    -- the tree has created the node, whichever sending it was
    rw [Tree.sent_of_applied happly]
    refine iff_of_true ?_ (.inl (Tree.accepts_of_applied happly))
    have hto := Tree.isTo_of_apply happly
    rw [type_request, htype] at hto
    cases answer with
    | created q stat =>
      obtain ⟨-, -, node, hnode, hfor⟩ :=
        (Tree.apply_eq_ok_iff.mp happly).holds (by rwa [appliesOnce_request])
      rw [path_request] at hnode
      exact ⟨node, hnode, isFor_request_iff.mp hfor⟩
    | _ => cases hto

/-- The node that a client announces its presence by is its own, although a request and two answers
are lost. -/
theorem holds_presence_of_lossy :
    ∃ c' st', tenant.execute (Store.link ⟨1, []⟩) presence lossy =
        (.ok (.created "/here" none), c', st') ∧
      st'.tree.Holds ⟨1, []⟩ "/svc/here" (presence.resolved .worldOpen) := by
  have hdone : (tenant.execute (Store.link ⟨1, []⟩) presence lossy).1 =
      .ok (.created "/here" none) := by decide +kernel
  have haccepts : (tenant.rooted ⟨1, []⟩ lossy).tree.accepts ⟨1, []⟩ [tenant.request presence] := by
    decide +kernel
  have hfix : tenant.space.fix "/here" = "/svc/here" := by decide +kernel
  generalize hrun : tenant.execute (Store.link ⟨1, []⟩) presence lossy = run at hdone
  obtain ⟨result, c', st'⟩ := run
  obtain rfl : result = _ := hdone
  obtain ⟨-, hholds⟩ := created_iff rfl (by decide +kernel) hrun
  rw [hfix] at hholds
  exact ⟨c', st', rfl, hholds.mpr (.inl haccepts)⟩

/-- A store with somebody else's node, which will lose a request. -/
def occupied : Store :=
  Store.Move.run .initial
    [.connect [], .submit ⟨1, []⟩ (.create "/x" "theirs".toUTF8 .worldOpen .persistent),
      .failNext .connectionLoss 1]

/-- A create of a node of the same path. -/
def seizing : Operation := .create "/x" "mine".toUTF8 .persistent none

/-- One lost request, and a create is reported that has not taken place: the node is somebody
else's. -/
theorem created_and_not_held :
    Client.start .trial = .ok someClient ∧ occupied.Reachable ∧
      (∀ f ∈ occupied.faults, f.code = .connectionLoss ∧ f.timing = .beforeApply) ∧
      (someClient.execute (Store.link ⟨1, []⟩) seizing occupied).1 = .ok (.created "/x" none) ∧
      ¬ (someClient.execute (Store.link ⟨1, []⟩) seizing occupied).2.2.tree.Holds ⟨1, []⟩
        (someClient.space.fix "/x") (seizing.resolved someClient.config.acl) := by
  refine ⟨rfl, Store.Reachable.initial.run (by decide +kernel), by decide +kernel,
    by decide +kernel, ?_⟩
  rintro ⟨node, hnode, hfor⟩
  have htheirs : ((someClient.execute (Store.link ⟨1, []⟩) seizing occupied).2.2.tree.node?
      (someClient.space.fix "/x")).map Node.data = some "theirs".toUTF8 := by decide +kernel
  have hmine : (seizing.resolved someClient.config.acl).data? = some "mine".toUTF8 := by
    decide +kernel
  rw [hnode, Option.map_some, Option.some.injEq] at htheirs
  have hdata := hfor.data
  rw [hmine, htheirs, Option.some.injEq] at hdata
  exact absurd hdata (by decide +kernel)

end Client

end Coordination
