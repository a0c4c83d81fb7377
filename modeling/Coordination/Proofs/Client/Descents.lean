import Coordination.Proofs.Client.Tasks
import Coordination.Proofs.Store.Faults
import Coordination.Proofs.Store.Replays

/-!
# Going down to a path

To ensure a path is to go down to it from the top and to see to one node after the other: the node
is created, or the store refuses and the refusal is excused because the node is there, or the way
ends here.

## A way that has been gone

Nothing that an ensurer does on its way takes away from what it has found there or left there. A
node that it has passed once it passes again, by a refusal that is excused, and this changes
nothing. So one who has gone down some of the way, and begins again at the top, comes to the same
end as he would have if he had gone on; it does not matter how often this happens, nor whether he
was told of what he did the last time. That is all that is needed to see that ensuring a path can be
tried again.

## Lines that fail

`Store.plainLink` is the line on which nothing goes wrong: requests reach the tree and are answered.
What another line does is told in its terms: `Link.Carries` says that a line does the same, but for
the faults that it meets one after the other, by which requests or their answers are lost.

## Main definitions

* `Tree.Excuses`: the refusals that let the work go on
* `Ensurer.descend`: the way down to some paths on a plain line
* `Tree.Keeps`: a tree with more nodes
* `Link.Carries`: lines that are plain but for some faults

## Main results

* `Ensurer.descend_induction`: what can happen on the way
* `Ensurer.descend_descend`: a way that has been gone
* `Ensurer.fares_createLineage`: the way down on a line that fails
-/

namespace Coordination

variable {t t₁ t₂ : Tree} {s : Session} {stamp : Int} {p above : String} {ps : List String}
  {e : Ensurer} {a : Answer} {code : ErrorCode} {st : Store}

/-! ## One node -/

namespace Tree

/-- **Whether a tree is another one with more nodes**: what was there has the same access list and
the same mode as before. -/
def Keeps (t t' : Tree) : Prop := ∀ p, (t.node? p).isSome → t'.footing? p = t.footing? p

@[simp] theorem Keeps.refl (t : Tree) : t.Keeps t := fun _ _ => rfl

theorem Keeps.isSome (h : t.Keeps t₁) (hp : (t.node? p).isSome) : (t₁.node? p).isSome := by
  rw [← isSome_footing?, h p hp]
  exact isSome_footing?.mpr hp

theorem Keeps.trans (h : t.Keeps t₁) (h' : t₁.Keeps t₂) : t.Keeps t₂ := by
  intro p hp
  rw [h' p (h.isSome hp), h p hp]

/-- A node that was there is still there, and so are its access list and its mode. -/
theorem Keeps.exists_node {n : Node} (h : t.Keeps t₁) (hn : t.node? p = some n) :
    ∃ n', t₁.node? p = some n' ∧ n'.acl = n.acl ∧ n'.mode = n.mode := by
  have hfooting := h p (by rw [hn]; rfl)
  rw [footing?, footing?, hn, Option.map_some, Option.map_eq_some_iff] at hfooting
  obtain ⟨n', hn', heq⟩ := hfooting
  exact ⟨n', hn', congrArg (·.1) heq, congrArg (·.2) heq⟩

/-- **Whether a refusal to create a node lets the work go on**, because the node is there. -/
def Excuses (t : Tree) (p : String) (code : ErrorCode) : Prop :=
  code = .nodeExists ∨ (code = .noAuth ∧ (t.node? p).isSome)

instance decidableExcuses (t : Tree) (p : String) (code : ErrorCode) :
    Decidable (t.Excuses p code) :=
  inferInstanceAs (Decidable (_ ∨ _))

end Tree

namespace Ensurer

/-- A request of an ensurer is a create of a node that lasts and bears the name that is asked
for. -/
theorem apply_request (e : Ensurer) (t : Tree) (s : Session) (stamp : Int) (p : String) :
    t.apply s stamp (e.request p) =
      if Path.isValid p then t.create s stamp p ByteArray.empty e.acl e.mode
      else .error .badArguments := by
  unfold Tree.apply
  rw [path_request]
  cases Path.isValid p with
  | false => rfl
  | true =>
    unfold request mode
    cases e.containers <;> rfl

/-- What a create by an ensurer needs, and what comes of it. -/
theorem apply_request_eq_ok_iff :
    t.apply s stamp (e.request p) = .ok (a, t₁) ↔
      ∃ above parent, Path.isValid p ∧ Path.parent? p = some above ∧ t.node? above = some parent ∧
        parent.permits s .create ∧ e.acl ≠ [] ∧ parent.mode.isEphemeral = false ∧
        t.node? p = none ∧
        a = .created p (some (Tree.freshStat s ByteArray.empty e.mode stamp)) ∧
        t₁ = t.attach above p
          (.leaf ByteArray.empty e.acl (Tree.freshStat s ByteArray.empty e.mode stamp) e.mode) := by
  rw [apply_request]
  by_cases hvalid : Path.isValid p
  · have hname (n : Node) : Tree.actualPath n p e.mode = p :=
      Tree.actualPath_of_not_sequential e.isSequential_mode
    rw [if_pos hvalid, Tree.create_eq_ok_iff]
    simp only [hname, hvalid, true_and]
  · rw [if_neg hvalid]
    simp [hvalid]

/-- A create by an ensurer takes nothing away, and the node is there afterwards. -/
theorem keeps_of_apply_request (h : t.apply s stamp (e.request p) = .ok (a, t₁)) :
    t.Keeps t₁ ∧ (t₁.node? p).isSome := by
  obtain ⟨above, parent, -, -, -, -, -, -, hfresh, -, rfl⟩ := apply_request_eq_ok_iff.mp h
  constructor
  · intro q hq
    have hne : q ≠ p := by
      rintro rfl
      rw [hfresh] at hq
      cases hq
    -- the node above gains a child, which is none of what is compared
    by_cases habove : q = above
    · exact Tree.footing?_of_map (f := (·.gain (Path.name p)))
        ((Tree.node?_attach ..).trans ((if_neg hne).trans (if_pos habove))) fun _ => rfl
    · rw [Tree.footing?, Tree.node?_attach, if_neg hne, if_neg habove, Tree.footing?]
  · rw [Tree.node?_attach, if_pos rfl]
    rfl

/-- Whoever is not allowed to create below the parent is told so before anything else. -/
theorem apply_request_eq_noAuth_iff :
    t.apply s stamp (e.request p) = .error .noAuth ↔
      ∃ above parent, Path.isValid p ∧ Path.parent? p = some above ∧ t.node? above = some parent ∧
        parent.permits s .create = false := by
  rw [apply_request]
  unfold Tree.create
  dsimp only
  constructor
  · intro h
    repeat' split at h
    all_goals simp_all
  · rintro ⟨above, parent, hvalid, habove, hparent, hpermits⟩
    simp [hvalid, habove, hparent, hpermits]

/-- Whoever is allowed to create below the parent is told that the node is there already; the root
always is. -/
theorem apply_request_eq_nodeExists_iff :
    t.apply s stamp (e.request p) = .error .nodeExists ↔
      Path.isValid p ∧ ∀ above, Path.parent? p = some above →
        ∃ parent, t.node? above = some parent ∧ parent.permits s .create ∧ e.acl ≠ [] ∧
          parent.mode.isEphemeral = false ∧ (t.node? p).isSome := by
  have hname (n : Node) : Tree.actualPath n p e.mode = p :=
    Tree.actualPath_of_not_sequential e.isSequential_mode
  rw [apply_request]
  unfold Tree.create
  simp only [hname]
  constructor
  · intro h
    repeat' split at h
    all_goals simp_all
  · rintro ⟨hvalid, hall⟩
    cases habove : Path.parent? p with
    | none => simp [hvalid]
    | some above =>
      obtain ⟨parent, hparent, hpermits, hne, hlasts, hp⟩ := hall above habove
      simp [hvalid, hparent, hpermits, hne, hlasts, hp]

/-- **A node that has been created is there already**, for the one who creates it again. -/
theorem apply_request_of_created (h : t.apply s stamp (e.request p) = .ok (a, t₁))
    (hkeeps : t₁.Keeps t₂) (stamp' : Int) :
    t₂.apply s stamp' (e.request p) = .error .nodeExists := by
  obtain ⟨hgrows, hpresent⟩ := keeps_of_apply_request h
  obtain ⟨above, parent, hvalid, habove, hparent, hpermits, hne, hlasts, -, -, -⟩ :=
    apply_request_eq_ok_iff.mp h
  refine apply_request_eq_nodeExists_iff.mpr ⟨hvalid, fun above' habove' => ?_⟩
  obtain rfl : above = above' := by simpa [habove] using habove'
  -- the parent has the same access list and the same mode as before
  obtain ⟨parent', hparent', hacl, hmode⟩ := (hgrows.trans hkeeps).exists_node hparent
  exact ⟨parent', hparent', by rwa [Node.permits, hacl], hne, by rwa [hmode],
    hkeeps.isSome hpresent⟩

/-- **A refusal that is excused is excused again**: the node is there, and whoever was not allowed
to create it is not allowed to now. -/
theorem apply_request_of_excused (h : t.apply s stamp (e.request p) = .error code)
    (hexcuse : t.Excuses p code) (hkeeps : t.Keeps t₁) (stamp' : Int) :
    t₁.apply s stamp' (e.request p) = .error code ∧ t₁.Excuses p code := by
  rcases hexcuse with rfl | ⟨rfl, hp⟩
  · obtain ⟨hvalid, hall⟩ := apply_request_eq_nodeExists_iff.mp h
    refine ⟨apply_request_eq_nodeExists_iff.mpr ⟨hvalid, fun above habove => ?_⟩, .inl rfl⟩
    obtain ⟨parent, hparent, hpermits, hne, hlasts, hp⟩ := hall above habove
    obtain ⟨parent', hparent', hacl, hmode⟩ := hkeeps.exists_node hparent
    exact ⟨parent', hparent', by rwa [Node.permits, hacl], hne, by rwa [hmode], hkeeps.isSome hp⟩
  · obtain ⟨above, parent, hvalid, habove, hparent, hpermits⟩ := apply_request_eq_noAuth_iff.mp h
    obtain ⟨parent', hparent', hacl, -⟩ := hkeeps.exists_node hparent
    refine ⟨apply_request_eq_noAuth_iff.mpr ⟨above, parent', hvalid, habove, hparent', ?_⟩,
      .inr ⟨rfl, hkeeps.isSome hp⟩⟩
    rwa [Node.permits, hacl]

end Ensurer

/-! ## The way down -/

section Lines

variable {σ : Type} {link : Link σ} {x x' : σ} {refusal : StoreError}

namespace Ensurer

theorem createLineage_of_ok (h : link.submit x (e.request p) = (.ok a, x')) (ps : List String) :
    createLineage link e (p :: ps) x = createLineage link e ps x' := by
  rw [createLineage, h]

theorem createLineage_of_tolerated (h : link.submit x (e.request p) = (.error refusal, x'))
    (htolerates : tolerates link x' p refusal = .ok ()) (ps : List String) :
    createLineage link e (p :: ps) x = createLineage link e ps x' := by
  rw [createLineage, h]
  dsimp only
  rw [htolerates]

theorem createLineage_of_not_tolerated (h : link.submit x (e.request p) = (.error refusal, x'))
    (htolerates : tolerates link x' p refusal = .error refusal) (ps : List String) :
    createLineage link e (p :: ps) x = (.error refusal, x') := by
  rw [createLineage, h]
  dsimp only
  rw [htolerates]

/-- What is excused is tolerated, if the line shows the nodes that are there. -/
theorem tolerates_of_exists?
    (h : code = .noAuth → link.exists? x p = .ok ((t.node? p).map Node.stat)) :
    tolerates link x p (.refused code (some p)) =
      if t.Excuses p code then .ok () else .error (.refused code (some p)) := by
  unfold tolerates
  cases code
  case nodeExists => rfl
  case noAuth =>
    dsimp only [StoreError.code]
    rw [h rfl]
    cases hp : t.node? p <;> simp [Tree.Excuses, hp]
  all_goals rfl

/-- What a call may be made again for is not tolerated. -/
theorem tolerates_of_isRetryable (link : Link σ) (x : σ) (p : String) (h : code.isRetryable) :
    tolerates link x p (Store.plainError code) = .error (Store.plainError code) := by
  unfold tolerates
  cases code <;> first | rfl | cases h

end Ensurer

end Lines

/-- The line on which nothing goes wrong: every session is let in, and all requests reach the tree
and are answered. -/
def Store.plainLink (s : Session) : Link Store :=
  { submit := fun st r => st.applyOne s r
    multi := fun st rs => st.applyBatch s rs
    exists? := fun st p => .ok ((st.tree.node? p).map Node.stat)
    isConnected := fun _ => true
    lossBound := fun _ => 0 }

namespace Ensurer

/-- **The way down to some paths**, one below the other: what comes of it on a plain line. -/
def descend (e : Ensurer) (s : Session) (ps : List String) (st : Store) :
    Except StoreError Unit × Store :=
  createLineage (Store.plainLink s) e ps st

theorem descend_of_created
    (h : st.tree.apply s (st.tree.transaction + 1) (e.request p) = .ok (a, t))
    (ps : List String) : e.descend s (p :: ps) st = e.descend s ps (st.advanced t) :=
  createLineage_of_ok (Store.applyOne_of_applied (by simp) h) ps

theorem applyOne_request_of_error
    (h : st.tree.apply s (st.tree.transaction + 1) (e.request p) = .error code) :
    st.applyOne s (e.request p) = (.error (.refused code (some p)), st) := by
  have hrefused := Store.applyOne_of_refused h
  rwa [path_request] at hrefused

theorem descend_of_excused
    (h : st.tree.apply s (st.tree.transaction + 1) (e.request p) = .error code)
    (hexcuse : st.tree.Excuses p code) (ps : List String) :
    e.descend s (p :: ps) st = e.descend s ps st := by
  refine createLineage_of_tolerated (applyOne_request_of_error h) ?_ ps
  exact (tolerates_of_exists? fun _ => rfl).trans (if_pos hexcuse)

theorem descend_of_refused
    (h : st.tree.apply s (st.tree.transaction + 1) (e.request p) = .error code)
    (hexcuse : ¬ st.tree.Excuses p code) (ps : List String) :
    e.descend s (p :: ps) st = (.error (.refused code (some p)), st) := by
  refine createLineage_of_not_tolerated (applyOne_request_of_error h) ?_ ps
  exact (tolerates_of_exists? fun _ => rfl).trans (if_neg hexcuse)

/-- **What can happen on the way**: it is at its end, or the next node is created, or the refusal to
create it is excused, or the way ends there. -/
@[elab_as_elim]
theorem descend_induction (e : Ensurer) (s : Session) {motive : List String → Store → Prop}
    (nil : ∀ st, motive [] st)
    (created : ∀ p ps st a t, st.tree.apply s (st.tree.transaction + 1) (e.request p) = .ok (a, t) →
      motive ps (st.advanced t) → motive (p :: ps) st)
    (excused : ∀ p ps st code,
      st.tree.apply s (st.tree.transaction + 1) (e.request p) = .error code →
      st.tree.Excuses p code → motive ps st → motive (p :: ps) st)
    (refused : ∀ p ps st code,
      st.tree.apply s (st.tree.transaction + 1) (e.request p) = .error code →
      ¬ st.tree.Excuses p code → motive (p :: ps) st)
    (ps : List String) (st : Store) : motive ps st := by
  induction ps generalizing st with
  | nil => exact nil st
  | cons p ps ih =>
    cases happly : st.tree.apply s (st.tree.transaction + 1) (e.request p) with
    | ok result => exact created p ps st result.1 result.2 happly (ih _)
    | error code =>
      by_cases hexcuse : st.tree.Excuses p code
      · exact excused p ps st code happly hexcuse (ih st)
      · exact refused p ps st code happly hexcuse

theorem keeps_advanced (h : st.tree.apply s stamp (e.request p) = .ok (a, t)) :
    st.tree.Keeps (st.advanced t).tree := (keeps_of_apply_request h).1

/-- Nothing is taken away on the way. -/
theorem keeps_descend (e : Ensurer) (s : Session) (ps : List String) (st : Store) :
    st.tree.Keeps (e.descend s ps st).2.tree := by
  induction ps, st using descend_induction e s with
  | nil st => exact .refl _
  | created p ps st a t happly ih =>
    rw [descend_of_created happly]
    exact (keeps_advanced happly).trans ih
  | excused p ps st code happly hexcuse ih =>
    rw [descend_of_excused happly hexcuse]
    exact ih
  | refused p ps st code happly hexcuse =>
    rw [descend_of_refused happly hexcuse]
    exact .refl _

/-- Nobody's session ends on the way. -/
theorem isConnected_descend (e : Ensurer) (s : Session) (ps : List String) (st : Store)
    (s' : Session) : (e.descend s ps st).2.isConnected s' = st.isConnected s' := by
  induction ps, st using descend_induction e s with
  | nil st => rfl
  | created p ps st a t happly ih =>
    rw [descend_of_created happly]
    exact ih
  | excused p ps st code happly hexcuse ih =>
    rw [descend_of_excused happly hexcuse]
    exact ih
  | refused p ps st code happly hexcuse => rw [descend_of_refused happly hexcuse]

/-- **The node that was last created is passed** by the one who comes again. -/
theorem descend_cons_of_created {st₁ : Store}
    (h : st.tree.apply s stamp (e.request p) = .ok (a, t)) (hkeeps : t.Keeps st₁.tree)
    (ps : List String) : e.descend s (p :: ps) st₁ = e.descend s ps st₁ :=
  descend_of_excused (apply_request_of_created h hkeeps _) (.inl rfl) ps

/-- So is a node whose creation was refused with excuse. -/
theorem descend_cons_of_excused {st₁ : Store}
    (h : st.tree.apply s stamp (e.request p) = .error code) (hexcuse : st.tree.Excuses p code)
    (hkeeps : st.tree.Keeps st₁.tree) (ps : List String) :
    e.descend s (p :: ps) st₁ = e.descend s ps st₁ := by
  obtain ⟨happly, hexcuse'⟩ :=
    apply_request_of_excused h hexcuse hkeeps (st₁.tree.transaction + 1)
  exact descend_of_excused happly hexcuse' ps

/-- **Whoever begins again where he has asked for the first node** comes to the same end, told or
not. -/
theorem descend_applyOne (e : Ensurer) (s : Session) (p : String) (ps : List String) (st : Store) :
    st.tree.Keeps (st.applyOne s (e.request p)).2.tree ∧
      e.descend s (p :: ps) (st.applyOne s (e.request p)).2 = e.descend s (p :: ps) st := by
  cases happly : st.tree.apply s (st.tree.transaction + 1) (e.request p) with
  | ok result =>
    rw [Store.applyOne_of_applied (by simp) happly]
    refine ⟨keeps_advanced happly, ?_⟩
    rw [descend_of_created happly]
    exact descend_cons_of_created happly (.refl _) ps
  | error code =>
    rw [applyOne_request_of_error happly]
    exact ⟨.refl _, rfl⟩

/-- **Whoever goes down again comes to the same end**, and changes nothing. -/
theorem descend_descend (e : Ensurer) (s : Session) (ps : List String) (st : Store) :
    e.descend s ps (e.descend s ps st).2 = e.descend s ps st := by
  induction ps, st using descend_induction e s with
  | nil st => rfl
  | created p ps st a t happly ih =>
    -- what was created the first time is still there at the end of the way
    have hkeeps : (st.advanced t).tree.Keeps (e.descend s ps (st.advanced t)).2.tree :=
      keeps_descend e s ps (st.advanced t)
    rw [descend_of_created happly, descend_cons_of_created happly hkeeps, ih]
  | excused p ps st code happly hexcuse ih =>
    rw [descend_of_excused happly hexcuse,
      descend_cons_of_excused happly hexcuse (keeps_descend e s ps st), ih]
  | refused p ps st code happly hexcuse =>
    rw [descend_of_refused happly hexcuse, descend_of_refused happly hexcuse]

/-- **Where the way ends** before the last node, the tree refuses to create the next one and has no
excuse. -/
theorem exists_refused_of_descend {refusal : StoreError} {st₁ : Store}
    (h : e.descend s ps st = (.error refusal, st₁)) :
    ∃ p code, p ∈ ps ∧ refusal = .refused code (some p) ∧
      st₁.tree.apply s (st₁.tree.transaction + 1) (e.request p) = .error code ∧
      ¬ st₁.tree.Excuses p code := by
  induction ps, st using descend_induction e s with
  | nil st => cases h
  | created p ps st a t happly ih =>
    rw [descend_of_created happly] at h
    obtain ⟨q, code, hq, hrest⟩ := ih h
    exact ⟨q, code, List.mem_cons_of_mem p hq, hrest⟩
  | excused p ps st code happly hexcuse ih =>
    rw [descend_of_excused happly hexcuse] at h
    obtain ⟨q, code, hq, hrest⟩ := ih h
    exact ⟨q, code, List.mem_cons_of_mem p hq, hrest⟩
  | refused p ps st code happly hexcuse =>
    rw [descend_of_refused happly hexcuse, Prod.mk.injEq, Except.error.injEq] at h
    obtain ⟨rfl, rfl⟩ := h
    exact ⟨p, code, List.mem_cons_self, rfl, happly, hexcuse⟩

end Ensurer

/-! ## Lines that fail -/

variable {σ : Type} {link : Link σ} {view : σ → Store} {pending : σ → List Fault} {x x' : σ}

/-- **Whether a line is plain but for some faults**: a request reaches the tree and is answered, or
it meets the next fault and is lost, or its answer is. -/
structure Link.Carries (link : Link σ) (s : Session) (view : σ → Store)
    (pending : σ → List Fault) : Prop where
  /-- A request. -/
  submit : ∀ x r, (view x).isConnected s →
    ((link.submit x r).1 = ((view x).applyOne s r).1 ∧
      view (link.submit x r).2 = ((view x).applyOne s r).2 ∧
      pending (link.submit x r).2 = pending x) ∨
    ∃ f, pending x = f :: pending (link.submit x r).2 ∧
      (link.submit x r).1 = .error (Store.plainError f.code) ∧
      view (link.submit x r).2 =
        match f.timing with
        | .beforeApply => view x
        | .afterApply => ((view x).applyOne s r).2
  /-- A look at a node. -/
  exists? : ∀ x p, (view x).isConnected s → Path.isValid p →
    link.exists? x p = .ok (((view x).tree.node? p).map Node.stat)

/-- **A store's own line is plain** but for the faults that the store holds. -/
theorem Store.carries_link (s : Session) :
    (Store.link s).Carries s (fun st => st.calm 0) (fun st => st.faults) where
  submit st r hs := by
    have hs' : st.isConnected s := hs
    cases hfs : st.faults with
    | nil =>
      have hsubmit : (Store.link s).submit st r = (st.letIn []).applyOne s r :=
        Store.submit_of_faultless hs' hfs r
      have hcalm : (st.letIn []).calm 0 = st.calm 0 := rfl
      rw [hsubmit, ← hcalm, Store.applyOne_calm]
      exact .inl ⟨rfl, rfl, Store.faults_applyOne ..⟩
    | cons f fs =>
      -- the fault is used up, whatever has become of the request
      have hsubmit : (Store.link s).submit st r = _ := Store.submit_of_fault hs' hfs r
      have hcalm : (st.letIn fs).calm 0 = st.calm 0 := rfl
      rw [hsubmit, ← hcalm, Store.applyOne_calm]
      obtain ⟨code, _ | _⟩ := f
      · exact .inr ⟨_, rfl, rfl, rfl⟩
      · refine .inr ⟨_, ?_, rfl, rfl⟩
        dsimp only
        rw [Store.faults_applyOne]
        rfl
  exists? st p hs hp := by
    have hs' : st.isConnected s := hs
    exact Store.exists?_of_isConnected hs' hp

namespace Ensurer

/-- **How the way down on a line that fails can come out**, as seen from where it began. -/
inductive Fares (e : Ensurer) (s : Session) (view : σ → Store) (pending : σ → List Fault)
    (ps : List String) (x : σ) : Except StoreError Unit → σ → Prop where
  /-- As on a plain line, without a fault. -/
  | whole {x' : σ} (hview : view x' = (e.descend s ps (view x)).2)
      (hpending : pending x' = pending x) :
      Fares e s view pending ps x (e.descend s ps (view x)).1 x'
  /-- It ends at the next fault. Whoever goes down again after that, on a plain line, comes to the
  same end as if nothing had happened. -/
  | struck {x' : σ} {f : Fault} (hpending : pending x = f :: pending x')
      (hkeeps : (view x).tree.Keeps (view x').tree) (hconnected : (view x').isConnected s)
      (hagain : e.descend s ps (view x') = e.descend s ps (view x)) :
      Fares e s view pending ps x (.error (Store.plainError f.code)) x'

/-- What comes before the rest of the way, if it meets no fault and is passed again. -/
theorem Fares.cons {x x' x'' : σ} {result : Except StoreError Unit}
    (h : Fares e s view pending ps x' result x'') (hpending : pending x' = pending x)
    (hkeeps : (view x).tree.Keeps (view x').tree)
    (hfirst : e.descend s (p :: ps) (view x) = e.descend s ps (view x'))
    (hagain : ∀ st : Store, (view x').tree.Keeps st.tree →
      e.descend s (p :: ps) st = e.descend s ps st) :
    Fares e s view pending (p :: ps) x result x'' := by
  cases h with
  | whole hview hpending' =>
    rw [← hfirst]
    refine .whole ?_ (hpending'.trans hpending)
    rw [hview, hfirst]
  | struck hpending' hkeeps' hconnected hagain' =>
    refine .struck (hpending ▸ hpending') (hkeeps.trans hkeeps') hconnected ?_
    rw [hagain _ hkeeps', hagain', hfirst]

/-- A request that is answered is passed as on a plain line, or is the end of the way as it would be
there. -/
theorem fares_of_answered (hlink : link.Carries s view pending) (hx : (view x).isConnected s)
    (hsubmit : link.submit x (e.request p) = (((view x).applyOne s (e.request p)).1, x'))
    (hview : view x' = ((view x).applyOne s (e.request p)).2) (hpending : pending x' = pending x)
    (hrest : Fares e s view pending ps x' (createLineage link e ps x').1
      (createLineage link e ps x').2) :
    Fares e s view pending (p :: ps) x (createLineage link e (p :: ps) x).1
      (createLineage link e (p :: ps) x).2 := by
  cases happly : (view x).tree.apply s ((view x).tree.transaction + 1) (e.request p) with
  | ok applied =>
    obtain ⟨a, t⟩ := applied
    rw [Store.applyOne_of_applied (by simp) happly] at hsubmit hview
    rw [createLineage_of_ok hsubmit]
    refine hrest.cons hpending ?_ ?_ ?_
    · rw [hview]
      exact keeps_advanced happly
    · rw [descend_of_created happly, hview]
    · intro st hkeeps
      rw [hview] at hkeeps
      exact descend_cons_of_created happly hkeeps ps
  | error code =>
    rw [applyOne_request_of_error happly] at hsubmit hview
    have hview' : view x' = view x := hview
    have htolerates : tolerates link x' p (.refused code (some p)) =
        if (view x).tree.Excuses p code then .ok () else .error (.refused code (some p)) := by
      refine tolerates_of_exists? ?_
      rintro rfl
      -- whoever is refused a permission has named a path
      obtain ⟨above, parent, hvalid, -⟩ := apply_request_eq_noAuth_iff.mp happly
      have hx' : (view x').isConnected s := by rwa [hview']
      rw [hlink.exists? x' p hx' hvalid, hview']
    by_cases hexcuse : (view x).tree.Excuses p code
    · rw [if_pos hexcuse] at htolerates
      rw [createLineage_of_tolerated hsubmit htolerates]
      refine hrest.cons hpending ?_ ?_ ?_
      · rw [hview']
        exact .refl _
      · rw [descend_of_excused happly hexcuse, hview']
      · intro st hkeeps
        rw [hview'] at hkeeps
        exact descend_cons_of_excused happly hexcuse hkeeps ps
    · rw [if_neg hexcuse] at htolerates
      rw [createLineage_of_not_tolerated hsubmit htolerates]
      have hends := descend_of_refused happly hexcuse ps
      have hwhole : Fares e s view pending (p :: ps) x (e.descend s (p :: ps) (view x)).1 x' :=
        .whole (by rw [hview', hends]) hpending
      rwa [hends] at hwhole

/-- A request that meets a fault is the end of the way. -/
theorem fares_of_fault {f : Fault} (hx : (view x).isConnected s) (hcode : f.code.isRetryable)
    (hsubmit : link.submit x (e.request p) = (.error (Store.plainError f.code), x'))
    (hpending : pending x = f :: pending x')
    (hview : view x' = match f.timing with
      | .beforeApply => view x
      | .afterApply => ((view x).applyOne s (e.request p)).2) (ps : List String) :
    Fares e s view pending (p :: ps) x (createLineage link e (p :: ps) x).1
      (createLineage link e (p :: ps) x).2 := by
  rw [createLineage_of_not_tolerated hsubmit (tolerates_of_isRetryable link x' p hcode)]
  obtain ⟨code, _ | _⟩ := f
  · have hview' : view x' = view x := hview
    refine .struck hpending ?_ ?_ ?_
    all_goals rw [hview']
    · exact .refl _
    · exact hx
  · have hview' : view x' = ((view x).applyOne s (e.request p)).2 := hview
    obtain ⟨hkeeps, hagain⟩ := descend_applyOne e s p ps (view x)
    refine .struck hpending ?_ ?_ ?_
    all_goals rw [hview']
    · exact hkeeps
    · rw [Store.isConnected_applyOne]
      exact hx
    · exact hagain

/-- **The way down on a line that fails.** -/
theorem fares_createLineage (hlink : link.Carries s view pending) (e : Ensurer) (ps : List String)
    (x : σ) (hx : (view x).isConnected s) (hcodes : ∀ f ∈ pending x, f.code.isRetryable) :
    Fares e s view pending ps x (createLineage link e ps x).1 (createLineage link e ps x).2 := by
  induction ps generalizing x with
  | nil => exact .whole rfl rfl
  | cons p ps ih =>
    rcases hlink.submit x (e.request p) hx with
      ⟨hresult, hview, hpending⟩ | ⟨f, hpending, hresult, hview⟩
    · have hx' : (view (link.submit x (e.request p)).2).isConnected s := by
        rw [hview, Store.isConnected_applyOne]
        exact hx
      have hrest := ih (link.submit x (e.request p)).2 hx' (by rwa [hpending])
      exact fares_of_answered hlink hx (Prod.ext hresult rfl) hview hpending hrest
    · have hcode : f.code.isRetryable := hcodes f (by rw [hpending]; exact List.mem_cons_self)
      exact fares_of_fault hx hcode (Prod.ext hresult rfl) hpending hview ps

end Ensurer

end Coordination
