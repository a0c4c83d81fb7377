import Coordination.Background.Job
import Coordination.Proofs.Client.Outcomes
import Coordination.Proofs.Client.Repeats
import Coordination.Proofs.Client.Tasks
import Coordination.Proofs.Store.History

/-!
# What is created in a namespace

A node that the store creates for an operation of a client lies in the client's namespace, and the
path that the client is told of it leads back to it. There is one exception: the root of a namespace
has a name like any other node, so a sequential create of the root writes the counter behind that
name, and the node is a sibling of the root. What the caller is told then is the path in the store,
which in the namespace is that of another node.

## Main definitions

* `Namespace.Contains`: whether a path lies in a namespace
* `Operation.NumbersRoot`: whether an operation asks for a numbered sibling of the root
* `Store.Creates`: what a store creates when it is asked for some requests
* `Client.TellsCreated`: what a client tells of the nodes that have been created for its callers

## Main results

* `Namespace.contains_of_fix_unfix`: what leads back to a path lies in the namespace
* `Client.exists_fix_of_applied`: what the request of an operation touches
* `Client.contains_iff_of_creates`: where the nodes are that are created for operations
* `Client.tellsCreated`: the paths that callers are told are those of the nodes, moved back
-/

namespace Coordination

/-! ## Paths of a namespace -/

namespace Namespace

variable {n : Namespace} {name p q root : String} {cs : List Char}

/-- **Whether a path lies in a namespace**: it is that of the root, or starts with it and a
slash. -/
def Contains (n : Namespace) (q : String) : Prop :=
  ∀ root, n.root = some root → q = root ∨ root.toList ++ ['/'] <+: q.toList

theorem ne_root_of_ofName? (h : ofName? name = some n) (hroot : n.root = some root) :
    root ≠ Path.root := by
  unfold ofName? at h
  dsimp only at h
  split at h
  · obtain rfl := Option.some.inj h
    cases hroot
  · rename_i hname
    split at h
    · obtain rfl := Option.some.inj h
      obtain rfl := Option.some.inj hroot
      intro heq
      rw [← String.toList_inj, String.toList_ofList] at heq
      exact hname (List.isEmpty_iff.mpr (List.cons.inj heq).2)
    · cases h

/-- What is moved into a namespace lies there. -/
theorem contains_fix (h : ofName? name = some n) (hp : Path.isValid p) : n.Contains (n.fix p) := by
  intro root hroot
  have hvalid : Path.isValid root := isWellFormed_of_ofName? h root hroot
  have hne : root ≠ Path.root := ne_root_of_ofName? h hroot
  -- in segments, moving a path is putting those of the root before it
  obtain ⟨rs, hrs, rfl⟩ := Path.exists_segments hvalid
  obtain ⟨ss, hss, rfl⟩ := Path.exists_segments hp
  have hnil : rs ≠ [] := by
    rintro rfl
    exact hne rfl
  obtain rfl : n = ⟨some (Path.ofSegments rs)⟩ := by
    cases n
    exact congrArg Namespace.mk hroot
  rw [fix_ofSegments hrs hss]
  cases ss with
  | nil => exact .inl (by rw [List.append_nil])
  | cons s ss =>
    right
    refine ⟨s ++ Path.chain ss, ?_⟩
    rw [Path.toList_ofSegments hnil, Path.toList_ofSegments (by simp), Path.chain_append,
      Path.chain_cons, List.append_assoc]
    rfl

/-- A longer name next to the root does not lie in the namespace. -/
theorem not_contains_append (hroot : n.root = some root) (hne : cs ≠ []) (hcs : '/' ∉ cs) :
    ¬ n.Contains (root ++ String.ofList cs) := by
  intro h
  rcases h root hroot with heq | hhead
  · have hnil : root.toList ++ cs = root.toList := by
      rw [← String.toList_inj, String.toList_append, String.toList_ofList] at heq
      exact heq
    exact hne (by simpa using hnil)
  · rw [String.toList_append, String.toList_ofList, List.prefix_append_right_inj] at hhead
    exact hcs (hhead.subset List.mem_cons_self)

/-- What does not lie in a namespace is told as it is. -/
theorem unfix_of_not_contains (h : ¬ n.Contains q) : n.unfix q = q := by
  unfold unfix
  split
  · rfl
  · rename_i root hroot
    have hcontains : (q = root ∨ root.toList ++ ['/'] <+: q.toList) → n.Contains q := by
      intro hq root' hroot'
      obtain rfl : root = root' := Option.some.inj (hroot.symm.trans hroot')
      exact hq
    split
    · rename_i heq
      exact absurd (hcontains (.inl heq)) h
    · split
      · rename_i below hcut
        rw [List.isPrefixOf?_eq_some_iff_append_eq] at hcut
        refine absurd (hcontains (.inr ⟨below, ?_⟩)) h
        rw [← hcut, List.append_assoc]
        rfl
      · rfl

/-- **What leads back to a path when it is moved in again lies in the namespace.** -/
theorem contains_of_fix_unfix (h : ofName? name = some n) (hq : Path.isValid q)
    (heq : n.fix (n.unfix q) = q) : n.Contains q := by
  by_contra hout
  rw [unfix_of_not_contains hout] at heq
  have hin := contains_fix h hq
  rw [heq] at hin
  exact hout hin

end Namespace

/-! ## Nodes for operations -/

/-- **Whether an operation asks for a numbered sibling of the root.** -/
def Operation.NumbersRoot (o : Operation) : Prop := o.path = Path.root ∧ o.request.isSequential

instance (o : Operation) : Decidable o.NumbersRoot :=
  inferInstanceAs (Decidable (o.path = Path.root ∧ o.request.isSequential))

theorem Operation.isSequential_eq_false {o : Operation} (h : ¬ o.NumbersRoot)
    (hroot : o.path = Path.root) : o.request.isSequential = false :=
  Bool.eq_false_iff.mpr fun hsequential => h ⟨hroot, hsequential⟩

namespace Client

variable {c : Client} {o : Operation} {name q : String} {t t' : Tree} {s : Session} {stamp : Int}
  {a : Answer} {stat : Option Stat}

/-- **The request of an operation touches a node of the namespace**, unless it asks for a numbered
sibling of the root. -/
theorem exists_fix_of_applied (hn : c.space.IsWellFormed) (hp : Path.isValid o.path)
    (ho : ¬ o.NumbersRoot) (h : t.Applied s stamp (c.request o) a t') :
    ∃ p, Path.isValid p ∧ c.space.fix p = (c.request o).target a := by
  refine h.exists_fix_target hn (by rwa [Operation.path_resolved]) fun hroot => ?_
  rw [Operation.path_resolved] at hroot
  rw [Operation.isSequential_resolved]
  exact Operation.isSequential_eq_false ho hroot

/-- What is created for an operation that asks for a numbered sibling of the root lies next to the
root, and is told by a path that leads elsewhere. -/
theorem not_contains_of_numbersRoot (hspace : Namespace.ofName? name = some c.space)
    (h : t.Applied s stamp (c.request o) (.created q stat) t') (ho : o.NumbersRoot) :
    ¬ c.space.Contains q ∧ c.space.fix (c.space.unfix q) ≠ q := by
  obtain ⟨hpath, hsequential⟩ := ho
  obtain ⟨hne, -, hnumbered⟩ := h.created_cases
  obtain ⟨i, rfl⟩ := hnumbered ((isSequential_request c o).trans hsequential)
  rw [path_request, hpath] at hne ⊢
  -- nothing is created at the root of the store, so the namespace has a root of its own
  cases hroot : c.space.root with
  | none => exact absurd (by simp only [Namespace.fix, hroot]) hne
  | some root =>
    have hfix : c.space.fix Path.root = root := by
      simp only [Namespace.fix, hroot, if_true]
    rw [hfix]
    have hout : ¬ c.space.Contains (numbered root i) :=
      Namespace.not_contains_append hroot (Text.Decimal.zeroFilledChars_ne_nil 10 i) fun hslash =>
        (Tree.ne_of_mem_zeroFilledChars hslash).1 rfl
    have hvalid : Path.isValid (numbered root i) :=
      isValid_numbered (Namespace.isWellFormed_of_ofName? hspace root hroot)
        (Namespace.ne_root_of_ofName? hspace hroot) i
    exact ⟨hout, fun heq => hout (Namespace.contains_of_fix_unfix hspace hvalid heq)⟩

/-- **A node that is created for an operation lies in the namespace, and is told by a path that
leads back to it, just if the operation does not ask for a numbered sibling of the root.** -/
theorem contains_iff_of_applied (hspace : Namespace.ofName? name = some c.space)
    (hp : Path.isValid o.path) (h : t.Applied s stamp (c.request o) (.created q stat) t') :
    (c.space.Contains q ↔ ¬ o.NumbersRoot) ∧
      (c.space.fix (c.space.unfix q) = q ↔ ¬ o.NumbersRoot) := by
  have hn : c.space.IsWellFormed := Namespace.isWellFormed_of_ofName? hspace
  by_cases hnumbers : o.NumbersRoot
  · obtain ⟨hout, hback⟩ := not_contains_of_numbersRoot hspace h hnumbers
    exact ⟨iff_of_false hout (not_not_intro hnumbers), iff_of_false hback (not_not_intro hnumbers)⟩
  · obtain ⟨p, hvalid, hfix⟩ := exists_fix_of_applied hn hp hnumbers h
    obtain rfl : c.space.fix p = q := hfix
    refine ⟨iff_of_true (Namespace.contains_fix hspace hvalid) hnumbers, iff_of_true ?_ hnumbers⟩
    rw [hn.unfix_fix hvalid]

end Client

/-! ## What a store creates -/

/-- What is applied within a batch are requests of the batch. -/
theorem Tree.exists_applied_of_mem_stages {t : Tree} {s : Session} {stamp : Int}
    {rs : List Request} {e : Stage} (h : e ∈ t.stages s stamp rs) :
    ∃ t₀, ∃ r ∈ rs, ∃ a, e.applied = some (r, a) ∧ Tree.Applied t₀ s stamp r a e.tree := by
  induction rs generalizing t with
  | nil => cases h
  | cons r rs ih =>
    rw [stages] at h
    split at h
    · cases h
    · rename_i a t' happly
      rcases List.mem_cons.mp h with rfl | h
      · exact ⟨t, r, List.mem_cons_self, a, rfl, apply_eq_ok_iff.mp happly⟩
      · obtain ⟨t₀, r', hr', hrest⟩ := ih h
        exact ⟨t₀, r', List.mem_cons_of_mem r hr', hrest⟩

/-- **Whether a store creates a node**: when a session asks for some requests, one of them is
applied and the node comes about at a path, whether the session hears of it or not. -/
def Store.Creates (st : Store) (s : Session) (rs : List Request) (r : Request) (q : String) :
    Prop :=
  ∃ stat t, ⟨some (r, .created q stat), t⟩ ∈ st.asked s rs

theorem Store.Creates.exists_applied {st : Store} {s : Session} {rs : List Request} {r : Request}
    {q : String} (h : st.Creates s rs r q) :
    r ∈ rs ∧ ∃ t stamp stat t', Tree.Applied t s stamp r (.created q stat) t' := by
  obtain ⟨stat, t', hstage⟩ := h
  unfold asked at hstage
  split at hstage
  · obtain ⟨t, r', hr', a, happlied, happly⟩ := Tree.exists_applied_of_mem_stages hstage
    obtain ⟨rfl, rfl⟩ : r = r' ∧ .created q stat = a := by simpa using happlied
    exact ⟨hr', t, _, stat, _, happly⟩
  · cases hstage

/-- What is taken for a repeat of a create is told as a create of the path that was asked for. -/
theorem Request.eq_path_of_replayed? {r : Request} {e : StoreError} {q : String}
    {stat : Option Stat} (h : r.replayed? e = some (.created q stat)) : q = r.path := by
  unfold replayed? at h
  repeat' split at h
  all_goals cases h
  all_goals rfl

namespace Client

variable {c : Client} {os : List Operation} {name q : String} {st : Store} {s : Session}
  {r : Request}

/-- **A node that a store creates when it is asked for operations is for one of them.** It lies in
the namespace, and leads back, just if that one asks for no numbered sibling of the root. -/
theorem contains_iff_of_creates (hspace : Namespace.ofName? name = some c.space)
    (hvalid : ∀ o ∈ os, Path.isValid o.path) (h : st.Creates s (os.map c.request) r q) :
    ∃ o ∈ os, r = c.request o ∧ (c.space.Contains q ↔ ¬ o.NumbersRoot) ∧
      (c.space.fix (c.space.unfix q) = q ↔ ¬ o.NumbersRoot) := by
  obtain ⟨hr, t, stamp, stat, t', happlied⟩ := h.exists_applied
  obtain ⟨o, ho, rfl⟩ := List.mem_map.mp hr
  exact ⟨o, ho, rfl, contains_iff_of_applied hspace (hvalid o ho) happlied⟩

/-! ## What callers are told -/

/-- **What a client tells of the nodes that have been created for its callers.** -/
structure TellsCreated (c : Client) : Prop where
  /-- An operation is answered, over any link, with the path of the node that the store says to have
  created, moved back; if the request was taken for a repeat it is that of the node asked for. -/
  answered : ∀ {σ : Type} (link : Link σ) (o : Operation) (s : σ) (p : String) (stat : Option Stat),
    (c.execute link o s).1 = .ok (.created p stat) → ∃ q, p = c.space.unfix q ∧
      (q = c.space.fix o.path ∨ ∃ s₁, (link.submit s₁ (c.request o)).1 = .ok (.created q stat))
  /-- In the outcomes of a transaction each path stands where its answer stood. -/
  reported : ∀ (b : Batch) (answers : List Answer) (outs : List Outcome) (i : Nat) (q : String)
    (stat : Option Stat), b.outcomes c.space answers = .ok outs →
      answers[i]? = some (.created q stat) →
      (outs[i]?).map (·.createdPath) = some (some (c.space.unfix q))
  /-- The event of a background call for an operation has it for a name. -/
  announced : ∀ (j : Job) (r : Request) (path q : String) (stat : Option Stat),
    j.payload = .single r path →
      ∃ e, j.event c.space (.single (.ok (.created q stat))) = .ok e ∧
        e.name = some (c.space.unfix q)

theorem exists_unfix_of_execute {σ : Type} {link : Link σ} {o : Operation} {s : σ} {p : String}
    {stat : Option Stat} (h : (c.execute link o s).1 = .ok (.created p stat)) :
    ∃ q, p = c.space.unfix q ∧ (q = c.space.fix o.path ∨
      ∃ s₁, (link.submit s₁ (c.request o)).1 = .ok (.created q stat)) := by
  obtain ⟨r, n, s₁, answer, hr, -, hreported, hanswer⟩ := exists_submitted_of_execute h
  obtain rfl := eq_request_of_prepare hr
  -- only a create is told as a create
  obtain ⟨q, hq, rfl⟩ : ∃ q, answer = .created q stat ∧ p = c.space.unfix q := by
    cases answer with
    | created q stat' =>
      obtain ⟨rfl, rfl⟩ : p = c.space.unfix q ∧ stat = stat' := by simpa [reported] using hreported
      exact ⟨q, rfl, rfl⟩
    | _ => cases hreported
  subst hq
  rcases hanswer with hanswer | ⟨e, -, hreplayed, -⟩
  · exact ⟨q, rfl, .inr ⟨s₁, hanswer⟩⟩
  · refine ⟨q, rfl, .inl ?_⟩
    rw [← path_request]
    exact Request.eq_path_of_replayed? hreplayed

/-- An answer that names a node fits only an entry that creates one, and is told moved back. -/
theorem createdPath_of_outcome {n : Namespace} {e : BatchEntry} {stat : Option Stat}
    {out : Outcome} (h : e.outcome n (.created q stat) = .ok out) :
    out.createdPath = some (n.unfix q) := by
  unfold BatchEntry.outcome at h
  cases htype : e.type with
  | create =>
    rw [htype] at h
    obtain rfl := Except.ok.inj h
    rfl
  | delete | setData | check =>
    rw [htype] at h
    cases h

theorem createdPath_of_matched {n : Namespace} {b : Batch} {answers : List Answer}
    {outs : List Outcome} {i : Nat} {stat : Option Stat} (h : b.matched n answers = .ok outs)
    (hlength : answers.length = b.length) (ha : answers[i]? = some (.created q stat)) :
    (outs[i]?).map (·.createdPath) = some (some (n.unfix q)) := by
  induction b generalizing answers outs i with
  | nil =>
    obtain rfl : answers = [] := List.length_eq_zero_iff.mp hlength
    cases ha
  | cons e b ih =>
    obtain ⟨a, answers, rfl⟩ := List.exists_cons_of_length_eq_add_one hlength
    unfold Batch.matched at h
    split at h
    · cases h
    · rename_i out hout
      split at h
      · cases h
      · rename_i outs' hrest
        cases h
        cases i with
        | zero =>
          obtain rfl : a = .created q stat := by simpa using ha
          rw [List.getElem?_cons_zero, Option.map_some, createdPath_of_outcome hout]
        | succ i =>
          have hpath := ih (i := i) hrest (by simpa using hlength) (by simpa using ha)
          rwa [List.getElem?_cons_succ]

theorem tellsCreated (c : Client) : c.TellsCreated where
  answered _ _ _ _ _ h := exists_unfix_of_execute h
  reported b answers outs i q stat h ha := by
    unfold Batch.outcomes at h
    split at h
    · rename_i hlength
      exact createdPath_of_matched h hlength ha
    · cases h
  announced j r path q stat hpayload := by
    unfold Job.event
    rw [hpayload]
    exact ⟨_, rfl, rfl⟩

end Client

end Coordination
