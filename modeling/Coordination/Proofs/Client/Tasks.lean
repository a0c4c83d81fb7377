import Coordination.Proofs.Client.Creates
import Coordination.Proofs.Client.Preparation
import Coordination.Proofs.Store.Footprints

/-!
# Tasks

What callers wait for: an operation, a transaction, or a path to be ensured, one after the other.
What a client sends for a task are creates on the way to the root of its namespace, the requests of
the task's operations, and creates on the way to the path to be ensured; whatever these keep of the
state behind the link, the task keeps. The client itself is told nothing new by a task but which
paths are there and how long it has waited.

## Main definitions

* `Task`, `Told`: what is asked for, and what is told
* `Client.perform`, `Client.performAll`: one task, and one after the other
* `Client.Sends`: what a client sends for a task
* `Ensurer.mode`: the mode of the nodes on the way to a path
* `Client.settings`: a client as it was started

## Main results

* `Client.perform_keeps`: what the requests keep that a client sends for a task
* `Client.settings_perform`: a task does not change the settings
* `Client.execute_of_ensureRoot`, `Client.submit_of_ensureRoot`: the first call of a client
-/

namespace Coordination

/-! ## Tasks -/

/-- What a caller asks for and waits for. -/
inductive Task where
  /-- One operation. -/
  | execute (o : Operation)
  /-- A transaction. -/
  | submit (os : List Operation)
  /-- A path to be ensured. -/
  | ensurePath (p : String)

/-- What a caller is told of a task that has succeeded. -/
inductive Told where
  /-- The answer to an operation. -/
  | answered (a : Answer)
  /-- The outcomes of a transaction. -/
  | reported (outcomes : List Outcome)
  /-- The path is there. -/
  | ensured
  deriving DecidableEq

/-- The operations of a task. -/
def Task.operations : Task → List Operation
  | execute o => [o]
  | submit os => os
  | ensurePath _ => []

namespace Client

variable {σ : Type}

/-- Does a task. -/
def perform (link : Link σ) (c : Client) : Task → σ → Except Failure Told × Client × σ
  | .execute o, s =>
    let (result, c, s) := c.execute link o s
    (result.map .answered, c, s)
  | .submit os, s =>
    let (result, c, s) := c.submit link os s
    (result.map .reported, c, s)
  | .ensurePath p, s =>
    let (result, c, s) := c.ensurePath link p s
    (result.map fun () => .ensured, c, s)

/-- Does one task after the other. -/
def performAll (link : Link σ) (c : Client) :
    List Task → σ → List (Except Failure Told) × Client × σ
  | [], s => ([], c, s)
  | k :: ks, s =>
    let (x, c, s) := c.perform link k s
    let (xs, c, s) := performAll link c ks s
    (x :: xs, c, s)

/-- **What a client sends for a task**, alone or in a batch. -/
inductive Sends (c : Client) (k : Task) : Request → Prop where
  /-- A create on the way to the root of the namespace. -/
  | root {root q : String} (hroot : c.space.root = some root) (hvalid : Path.isValid root)
      (hq : q ∈ Path.lineage (c.rootEnsurer.space.fix root)) : Sends c k (c.rootEnsurer.request q)
  /-- The request of an operation. -/
  | operation {o : Operation} (ho : o ∈ k.operations) (hvalid : Path.isValid o.path) :
      Sends c k (c.request o)
  /-- A create on the way to a path to be ensured. -/
  | path {p q : String} (hk : k = .ensurePath p) (hvalid : Path.isValid p)
      (hq : q ∈ Path.lineage (c.ensurer.space.fix p)) : Sends c k (c.ensurer.request q)

end Client

/-! ## Requests of operations -/

theorem Operation.isSequential_resolved (o : Operation) (fallback : Acl) :
    (o.resolved fallback).isSequential = o.request.isSequential := by
  rw [Request.isSequential, mode?_resolved, Request.isSequential]

theorem Client.isSequential_request (c : Client) (o : Operation) :
    (c.request o).isSequential = o.request.isSequential := by
  rw [request, Namespace.fixRequest, Request.isSequential_withPath, Operation.isSequential_resolved]

/-! ## Creates on the way to a path -/

namespace Ensurer

/-- The mode of the nodes that an ensurer creates. -/
def mode (e : Ensurer) : CreateMode := if e.containers then .container else .persistent

theorem isEphemeral_mode (e : Ensurer) : e.mode.isEphemeral = false := by
  unfold mode
  split <;> rfl

theorem isSequential_mode (e : Ensurer) : e.mode.isSequential = false := by
  unfold mode
  split <;> rfl

@[simp] theorem path_request (e : Ensurer) (p : String) : (e.request p).path = p := by
  unfold request
  split <;> rfl

@[simp] theorem mode?_request (e : Ensurer) (p : String) : (e.request p).mode? = some e.mode := by
  unfold request mode
  split <;> rfl

@[simp] theorem acl?_request (e : Ensurer) (p : String) : (e.request p).acl? = some e.acl := by
  unfold request
  split <;> rfl

@[simp] theorem data?_request (e : Ensurer) (p : String) :
    (e.request p).data? = some ByteArray.empty := by
  unfold request
  split <;> rfl

@[simp] theorem isMutation_request (e : Ensurer) (p : String) : (e.request p).isMutation := by
  unfold request
  split <;> rfl

end Ensurer

/-! ## Namespaces of clients -/

theorem Namespace.isWellFormed_of_ofName? {name : String} {n : Namespace}
    (h : Namespace.ofName? name = some n) : n.IsWellFormed := by
  intro root hroot
  unfold ofName? at h
  dsimp only at h
  split at h
  · obtain rfl := Option.some.inj h
    cases hroot
  · split at h
    · rename_i hvalid
      obtain rfl := Option.some.inj h
      obtain rfl := Option.some.inj hroot
      rwa [Path.isValid, String.toList_ofList]
    · cases h

theorem Config.isWellFormed_of_validate {cfg : Config} {n : Namespace}
    (h : cfg.validate = .ok n) : n.IsWellFormed := by
  unfold validate at h
  split at h
  · cases h
  · split at h
    · obtain rfl := Except.ok.inj h
      intro root hroot
      cases hroot
    · unfold Namespace.ofName at h
      split at h
      · rename_i hname
        obtain rfl := Except.ok.inj h
        exact Namespace.isWellFormed_of_ofName? hname
      · cases h

/-! ## The settings -/

/-- An ensurer that has ensured nothing yet. -/
def Ensurer.blank (e : Ensurer) : Ensurer := { e with ensured := ∅ }

theorem Ensurer.blank_ensureBy {σ ε : Type} (e : Ensurer) (p : String) (nothing : ε)
    (work : σ → Except Failure Unit × ε × σ) (s : σ) :
    (e.ensureBy p nothing work s).2.1.blank = e.blank := by
  unfold ensureBy
  repeat' split
  all_goals rfl

namespace Client

variable {σ α : Type} {link : Link σ} {c : Client} {o : Operation} {os : List Operation}
  {p : String} {s : σ} {P : σ → Prop} {k : Task}

/-- A client as it was started, but that it may have been closed. -/
def settings (c : Client) : Client :=
  { c with rootEnsurer := c.rootEnsurer.blank, ensurer := c.ensurer.blank, sleeps := [] }

theorem settings_slept (c : Client) (sleeps : List Duration) :
    (c.slept sleeps).settings = c.settings := rfl

theorem settings_ensureRoot (link : Link σ) (c : Client) (s : σ) :
    (c.ensureRoot link s).2.1.settings = c.settings := by
  unfold ensureRoot
  split
  · rfl
  · rename_i root hroot
    have hblank : (c.rootEnsurer.ensure link c.config root s).2.1.blank = c.rootEnsurer.blank :=
      Ensurer.blank_ensureBy ..
    simp only [settings, slept, hblank]

theorem settings_call (attempt : Nat → σ → Except StoreError α × σ) :
    (c.call link attempt s).2.1.settings = c.settings := by
  have hroot := settings_ensureRoot link c s
  unfold call
  split
  · rename_i hresult
    rwa [hresult] at hroot
  · rename_i hresult
    rw [hresult] at hroot
    exact (settings_slept ..).trans hroot

theorem settings_execute (link : Link σ) (c : Client) (o : Operation) (s : σ) :
    (c.execute link o s).2.1.settings = c.settings := by
  unfold execute
  split
  · rfl
  · split
    · rfl
    · exact settings_call _

theorem settings_submit (link : Link σ) (c : Client) (os : List Operation) (s : σ) :
    (c.submit link os s).2.1.settings = c.settings := by
  unfold submit
  split
  · rfl
  · split
    · rfl
    · exact settings_call _

theorem settings_ensurePath (link : Link σ) (c : Client) (p : String) (s : σ) :
    (c.ensurePath link p s).2.1.settings = c.settings := by
  unfold ensurePath
  split
  · rfl
  · have hblank : (c.ensurer.ensure link c.config p s).2.1.blank = c.ensurer.blank :=
      Ensurer.blank_ensureBy ..
    simp only [ensure, settings, slept, hblank]

/-- **A task does not change the settings.** -/
theorem settings_perform (link : Link σ) (c : Client) (k : Task) (s : σ) :
    (c.perform link k s).2.1.settings = c.settings := by
  cases k with
  | execute o => exact settings_execute link c o s
  | submit os => exact settings_submit link c os s
  | ensurePath p => exact settings_ensurePath link c p s

/-! ## What a task keeps -/

theorem call_keeps {attempt : Nat → σ → Except StoreError α × σ}
    (hroot : P (c.ensureRoot link s).2.2) (hattempt : ∀ n s, P s → P (attempt n s).2) :
    P (c.call link attempt s).2.2 := by
  unfold call
  split
  · rename_i hresult
    rwa [hresult] at hroot
  · rename_i hresult
    rw [hresult] at hroot
    exact Config.withRetries_preserves hattempt hroot

theorem execute_keeps (hroot : P (c.ensureRoot link s).2.2)
    (hsubmit : Path.isValid o.path → ∀ s, P s → P (link.submit s (c.request o)).2) (h : P s) :
    P (c.execute link o s).2.2 := by
  unfold execute
  split
  · exact h
  · split
    · exact h
    · rename_i r hr
      have hvalid : Path.isValid o.path := isValid_of_prepare hr
      obtain rfl := eq_request_of_prepare hr
      exact call_keeps hroot fun _ => hsubmit hvalid

theorem submit_keeps (hroot : P (c.ensureRoot link s).2.2)
    (hmulti : (∀ o ∈ os, Path.isValid o.path) → ∀ s, P s →
      P (link.multi s (os.map c.request)).2) (h : P s) :
    P (c.submit link os s).2.2 := by
  rcases submit_cases link c os s with ⟨f, hf, hrejected⟩ | ⟨hb, hsubmit⟩
  · rwa [submit_of_isRejection hrejected hf]
  · rw [hsubmit]
    exact call_keeps hroot fun _ => hmulti (isValid_of_prepareBatch hb)

/-- **What the requests keep that a client sends for a task, the task keeps.** -/
theorem perform_keeps (hsubmit : ∀ r, c.Sends k r → ∀ s, P s → P (link.submit s r).2)
    (hmulti : ∀ rs, (∀ r ∈ rs, c.Sends k r) → ∀ s, P s → P (link.multi s rs).2) (h : P s) :
    P (c.perform link k s).2.2 := by
  -- an operation and a transaction are preceded by the creates on the way to the root
  have hroot : P (c.ensureRoot link s).2.2 :=
    ensureRoot_keeps (fun _ hroot hvalid _ hq => hsubmit _ (.root hroot hvalid hq)) h
  cases k with
  | execute o =>
    exact execute_keeps hroot (fun hvalid => hsubmit _ (.operation List.mem_cons_self hvalid)) h
  | submit os =>
    refine submit_keeps hroot (fun hvalid => hmulti _ fun r hr => ?_) h
    obtain ⟨o, ho, rfl⟩ := List.mem_map.mp hr
    exact .operation ho (hvalid o ho)
  | ensurePath p =>
    show P (c.ensurePath link p s).2.2
    unfold ensurePath
    split
    · exact h
    · exact Ensurer.ensure_keeps (fun hvalid _ hq => hsubmit _ (.path rfl hvalid hq)) h

/-- What is kept by the requests that are applied for a task, the task keeps. The number of
transactions must not matter. -/
theorem perform_keeps_tree {P : Tree → Prop} {s : Session} {st : Store}
    (hcount : ∀ t z, P t → P { t with transaction := z })
    (hkeeps : ∀ r, c.Sends k r → ∀ t stamp a t', P t → t.Applied s stamp r a t' → P t')
    (h : P st.tree) : P (c.perform (Store.link s) k st).2.2.tree :=
  perform_keeps (P := fun st : Store => P st.tree)
    (fun r hr _ hst => Store.submit_keeps hcount (hkeeps r hr) hst)
    (fun _ hrs _ hst => Store.multi_keeps hcount (fun r hr => hkeeps r (hrs r hr)) hst) h

/-! ## The first call -/

/-- A client that has ensured its root prepares calls as before. -/
theorem prepare_of_settings {c₁ : Client} (h : c₁.settings = c.settings) (o : Operation) :
    c₁.prepare o = c.prepare o := by
  have hconfig : c₁.config = c.config := congrArg (·.config) h
  have hspace : c₁.space = c.space := congrArg (·.space) h
  simp only [prepare, checkSchema, request, hconfig, hspace]

theorem prepareBatch_of_settings {c₁ : Client} (h : c₁.settings = c.settings)
    (os : List Operation) : c₁.prepareBatch os = c.prepareBatch os := by
  have hconfig : c₁.config = c.config := congrArg (·.config) h
  have hspace : c₁.space = c.space := congrArg (·.space) h
  have hentries : ∀ index, c₁.prepareEntries index os = c.prepareEntries index os := by
    induction os with
    | nil => exact fun _ => rfl
    | cons o os ih =>
      intro index
      simp only [prepareEntries, prepareEntry, checkSchema, request, hconfig, hspace, ih]
  rw [prepareBatch, prepareBatch, hentries]

/-- A client that has just been started has what its configuration says, and has done nothing. -/
theorem eq_of_start {cfg : Config} (h : start cfg = .ok c) :
    c.config = cfg ∧ cfg.validate = .ok c.space ∧ c.rootEnsurer = .ofConfig cfg .whole ∧
      c.ensurer = .ofConfig cfg c.space ∧ c.closed = false := by
  unfold start at h
  split at h
  · cases h
  · rename_i space hspace
    obtain rfl := Except.ok.inj h
    exact ⟨rfl, hspace, rfl, rfl, rfl⟩

section Rooted

variable {c₁ : Client} {s₁ : σ}

/-- A root that the first attempt creates has been ensured. -/
theorem ensureRoot_of_attempt {root : String}
    (hroot : c.space.root = some root) (hvalid : Path.isValid root)
    (hnew : c.rootEnsurer.isEnsured root = false)
    (h : Ensurer.attempt link c.rootEnsurer root s = (.ok (), s₁)) :
    c.ensureRoot link s = (.ok (), { c with rootEnsurer := c.rootEnsurer.remember root }, s₁) ∧
      ({ c with rootEnsurer := c.rootEnsurer.remember root } : Client).IsRooted := by
  have hretries : c.config.withRetries link (fun _ => Ensurer.attempt link c.rootEnsurer root) s =
      (.ok (), [], s₁) := by
    rw [Config.withRetries, RetryLoop.run_of_ok h]
    rfl
  constructor
  · simp only [ensureRoot, hroot, Ensurer.ensure, Ensurer.ensureBy, Path.check, hvalid, if_true,
      hnew, Bool.false_eq_true, if_false, hretries, slept, List.append_nil]
  · intro root' hroot'
    obtain rfl : root = root' := Option.some.inj (hroot.symm.trans hroot')
    refine ⟨hvalid, ?_⟩
    simp [Ensurer.isEnsured, Ensurer.remember]

theorem settings_of_ensureRoot (h : c.ensureRoot link s = (.ok (), c₁, s₁)) :
    c₁.settings = c.settings := by
  have hroot := settings_ensureRoot link c s
  rwa [h] at hroot

theorem call_eq_of_ensureRoot {attempt : Nat → σ → Except StoreError α × σ}
    (h : c.ensureRoot link s = (.ok (), c₁, s₁)) (hroot : c₁.IsRooted) :
    c.call link attempt s = c₁.call link attempt s₁ := by
  rw [call_of_isRooted hroot, call, h]

/-- **An operation that is not rejected is run as if the root had been ensured before.** -/
theorem execute_of_ensureRoot {r : Request} (h : c.ensureRoot link s = (.ok (), c₁, s₁))
    (hroot : c₁.IsRooted) (hopen : c.closed = false) (hr : c.prepare o = .ok r) :
    c.execute link o s = c₁.execute link o s₁ := by
  have hsettings := settings_of_ensureRoot h
  have hopen₁ : c₁.closed = false := (congrArg (·.closed) hsettings).trans hopen
  have hr₁ : c₁.prepare o = .ok r := (prepare_of_settings hsettings o).trans hr
  simp only [execute, checkOpen, hopen, hopen₁, Bool.false_eq_true, if_false, hr, hr₁,
    call_eq_of_ensureRoot h hroot]

/-- **A transaction that is not rejected is run as if the root had been ensured before.** -/
theorem submit_of_ensureRoot {b : Batch} (h : c.ensureRoot link s = (.ok (), c₁, s₁))
    (hroot : c₁.IsRooted) (hopen : c.closed = false) (hb : c.prepareBatch os = .ok b) :
    c.submit link os s = c₁.submit link os s₁ := by
  have hsettings := settings_of_ensureRoot h
  have hopen₁ : c₁.closed = false := (congrArg (·.closed) hsettings).trans hopen
  have hb₁ : c₁.prepareBatch os = .ok b := (prepareBatch_of_settings hsettings os).trans hb
  simp only [submit, checkOpen, hopen, hopen₁, Bool.false_eq_true, if_false, hb, hb₁,
    call_eq_of_ensureRoot h hroot]

end Rooted

end Client

end Coordination
