import Coordination.Proofs.Path.Lineage
import Coordination.Proofs.Store.WellFormed

/-!
# What a request leaves alone

A request that is applied touches one node, the one that it creates, removes or rewrites, and if it
creates or removes it, the parent, whose children and counters change. All other nodes stay as they
are, and all but the one touched keep what decides who may create something below them. A request
that has been moved into a namespace touches a node there, unless it asks for a numbered sibling of
the root.

## Main definitions

* `numbered`: the path of a sequential node
* `Request.target`: the node that a request touches
* `Tree.footing?`: what a node offers to those who create below it

## Main results

* `Tree.Applied.node?_eq`, `Tree.Applied.footing?_eq`: what a request leaves alone
* `Tree.Applied.exists_fix_target`: a request of a namespace stays there
-/

namespace Coordination

/-! ## Numbered paths -/

/-- The path of a sequential node: what was asked for, and the counter. -/
def numbered (p : String) (i : Int) : String :=
  p ++ String.ofList (Text.Decimal.zeroFilledChars 10 i)

section Numbered

variable {n : Namespace} {p above : String}

theorem parent?_numbered (hp : Path.isValid p) (habove : Path.parent? p = some above) (i : Int) :
    Path.parent? (numbered p i) = some above := by
  rw [numbered, Path.parent?_append hp (Path.ne_root_of_parent? habove)
    (Text.Decimal.zeroFilledChars_ne_nil 10 i) fun _ => Tree.ne_of_mem_zeroFilledChars, habove]

theorem name_numbered (hp : Path.isValid p) (habove : Path.parent? p = some above) (i : Int) :
    Path.name (numbered p i) = numbered (Path.name p) i :=
  Path.name_append hp (Path.ne_root_of_parent? habove) (Text.Decimal.zeroFilledChars_ne_nil 10 i)
    fun _ => Tree.ne_of_mem_zeroFilledChars

theorem isValid_numbered (hp : Path.isValid p) (hr : p ≠ Path.root) (i : Int) :
    Path.isValid (numbered p i) :=
  Path.isValid_append hp hr (Text.Decimal.zeroFilledChars_ne_nil 10 i) fun _ =>
    Tree.ne_of_mem_zeroFilledChars

theorem Namespace.IsWellFormed.fix_numbered (hn : n.IsWellFormed) (hp : Path.isValid p)
    (hr : p ≠ Path.root) (i : Int) : n.fix (numbered p i) = numbered (n.fix p) i :=
  hn.fix_append hp hr (Text.Decimal.zeroFilledChars_ne_nil 10 i) fun _ =>
    Tree.ne_of_mem_zeroFilledChars

end Numbered

/-! ## Requests -/

/-- Whether a request asks for a name that ends in a counter. -/
def Request.isSequential (r : Request) : Bool := r.mode?.any (·.isSequential)

/-- The path of the node that a request touches; for a create it is the answer that names it. -/
def Request.target (r : Request) : Answer → String
  | .created q _ => q
  | _ => r.path

@[simp] theorem Request.isSequential_withPath (r : Request) (q : String) :
    (r.withPath q).isSequential = r.isSequential := by
  rw [isSequential, mode?_withPath, isSequential]

namespace Tree

variable {t t' : Tree} {s : Session} {stamp : Int} {r : Request} {a : Answer} {p q above : String}
  {n : Namespace}

theorem actualPath_of_sequential {parent : Node} {mode : CreateMode} (h : mode.isSequential) :
    actualPath parent p mode = numbered p parent.stat.childVersion.toInt := by
  rw [actualPath, h, if_pos rfl, Text.Decimal.zeroFilled_eq]
  rfl

theorem actualPath_of_not_sequential {parent : Node} {mode : CreateMode}
    (h : mode.isSequential = false) : actualPath parent p mode = p := by
  rw [actualPath, h, if_neg Bool.false_ne_true]

/-- What a node offers to those who create below it: its access list and its mode. -/
def footing? (t : Tree) (p : String) : Option (Acl × CreateMode) :=
  (t.node? p).map fun n => (n.acl, n.mode)

theorem isSome_footing? : (t.footing? p).isSome ↔ (t.node? p).isSome := by
  simp [footing?]

theorem footing?_of_map {f : Node → Node} (h : t'.node? p = (t.node? p).map f)
    (hf : ∀ n, ((f n).acl, (f n).mode) = (n.acl, n.mode)) : t'.footing? p = t.footing? p := by
  rw [footing?, footing?, h, Option.map_map]
  exact congrArg (Option.map · (t.node? p)) (funext hf)

namespace Applied

theorem isValid_path (h : t.Applied s stamp r a t') : Path.isValid r.path := by
  cases h <;> assumption

/-- A request touches the node that it names, or a numbered sibling. -/
theorem target_cases (h : t.Applied s stamp r a t') :
    r.target a = r.path ∨ (r.isSequential ∧ ∃ i, r.target a = numbered r.path i) := by
  cases h with
  | @created _ data acl mode above parent hmode =>
    cases hsequential : mode.isSequential with
    | false => exact .inl (actualPath_of_not_sequential hsequential)
    | true =>
      refine .inr ⟨?_, _, actualPath_of_sequential hsequential⟩
      rw [Request.isSequential, hmode]
      exact hsequential
  | deleted | dataSet | checked => exact .inl rfl

/-- A node that is created has a counter behind its name just if the request asks for one. -/
theorem created_cases {stat : Option Stat} (h : t.Applied s stamp r (.created q stat) t') :
    r.path ≠ Path.root ∧ (r.isSequential = false → q = r.path) ∧
      (r.isSequential → ∃ i, q = numbered r.path i) := by
  cases h with
  | @created _ data acl mode above parent hmode hdata hacl hvalid habove =>
    have hsequential : r.isSequential = mode.isSequential := by
      rw [Request.isSequential, hmode]
      rfl
    rw [hsequential]
    refine ⟨Path.ne_root_of_parent? habove, actualPath_of_not_sequential, fun h => ?_⟩
    exact ⟨_, actualPath_of_sequential h⟩

theorem parent?_target (h : t.Applied s stamp r a t') :
    Path.parent? (r.target a) = Path.parent? r.path := by
  cases h with
  | created hmode hdata hacl hvalid habove =>
    exact (valid_actualPath hvalid habove).2.trans habove.symm
  | deleted | dataSet | checked => rfl

/-- **A request leaves all nodes alone** but the one that it touches and the one above. -/
theorem node?_eq (h : t.Applied s stamp r a t') (hq : q ≠ r.target a)
    (habove : Path.parent? r.path ≠ some q) : t'.node? q = t.node? q := by
  cases h with
  | @created _ data acl mode above parent hmode hdata hacl hvalid habove' =>
    have hne : q ≠ above := by
      rintro rfl
      exact habove habove'
    exact (node?_attach ..).trans ((if_neg hq).trans (if_neg hne))
  | @deleted _ above parent node htype hvalid habove' =>
    have hne : q ≠ above := by
      rintro rfl
      exact habove habove'
    have hself : above ≠ r.path := by
      rintro rfl
      exact Path.parent?_ne_self hvalid habove'
    exact (node?_remove habove' hself q).trans ((if_neg hq).trans (if_neg hne))
  | dataSet => exact (node?_put ..).trans (if_neg hq)
  | checked => rfl

/-- **A request leaves to every other node** what that node offers to those who create below it. -/
theorem footing?_eq (h : t.Applied s stamp r a t') (hq : q ≠ r.target a) :
    t'.footing? q = t.footing? q := by
  by_cases habove : Path.parent? r.path = some q
  · -- the parent gains or loses a child and is otherwise the same
    cases h with
    | @created _ data acl mode above parent hmode hdata hacl hvalid habove' =>
      obtain rfl : q = above := by simpa [habove] using habove'
      exact footing?_of_map ((node?_attach ..).trans ((if_neg hq).trans (if_pos rfl))) fun _ => rfl
    | deleted htype hvalid =>
      exact footing?_of_map ((node?_remove habove hq q).trans ((if_neg hq).trans (if_pos rfl)))
        fun _ => rfl
    | dataSet =>
      exact congrArg (Option.map fun n => (n.acl, n.mode)) ((node?_put ..).trans (if_neg hq))
    | checked => rfl
  · rw [footing?, h.node?_eq hq habove]
    rfl

/-- **A request of a namespace touches a node there**, unless it asks for a numbered sibling of the
root. -/
theorem exists_fix_target (hn : n.IsWellFormed) (hp : Path.isValid r.path)
    (h : t.Applied s stamp (n.fixRequest r) a t')
    (hroot : r.path = Path.root → r.isSequential = false) :
    ∃ p, Path.isValid p ∧ n.fix p = (n.fixRequest r).target a := by
  rcases h.target_cases with htarget | ⟨hsequential, i, htarget⟩
  · exact ⟨r.path, hp, by rw [htarget, Namespace.path_fixRequest]⟩
  · -- a number at the end of a name stays there when the path is moved, unless it is the root
    have hr : r.path ≠ Path.root := by
      intro heq
      rw [Namespace.fixRequest, Request.isSequential_withPath, hroot heq] at hsequential
      cases hsequential
    refine ⟨numbered r.path i, isValid_numbered hp hr i, ?_⟩
    rw [htarget, Namespace.path_fixRequest, hn.fix_numbered hp hr]

end Applied

end Tree

end Coordination
