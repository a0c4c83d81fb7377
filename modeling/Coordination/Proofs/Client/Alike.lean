import Mathlib.Data.List.Forall2
import Coordination.Proofs.Client.Outcomes
import Coordination.Proofs.Client.Tasks
import Coordination.Proofs.Store.Exchanges

/-!
# Clients alike

Two clients that were told the same, but for their namespaces, each over a store of its own. If the
stores echo each other through the two namespaces and the roots have been ensured, then one and the
same task is rejected by both clients for the same reason, or else it succeeds with answers that
agree, or fails with errors of which only the paths differ; and the stores go on echoing each other.

## Main definitions

* `Client.Alike`: two clients that were told the same
* `Outcome.Echoes`, `Told.Echoes`: what agrees with what
* `StoreError.Renders`: the change of an error from one namespace to another

## Main results

* `Client.Alike.prepare`, `Client.Alike.prepareBatch`: both reject a call for the same reason, or
  none
* `Client.Alike.execute`, `Client.Alike.submit`: the calls of a client
* `Client.Alike.performAll`: one task after the other
-/

namespace Coordination

variable {R : Int → Int → Prop} {lax : Prop}

/-! ## Outcomes -/

/-- Two outcomes agree: they tell the same of the same operation, and stats that agree. -/
structure Outcome.Echoes (R : Int → Int → Prop) (out out' : Outcome) : Prop where
  type : out'.type = out.type
  path : out'.path = out.path
  createdPath : out'.createdPath = out.createdPath
  stat : Option.Rel (Stat.Echoes R) out.stat out'.stat
  code : out'.code = out.code

/-- Two callers are told the same, with stats that agree. -/
inductive Told.Echoes (R : Int → Int → Prop) : Told → Told → Prop where
  | answered {a a' : Answer} (h : a.Echoes R .whole .whole a') :
      Echoes R (.answered a) (.answered a')
  | reported {outs outs' : List Outcome} (h : List.Forall₂ (Outcome.Echoes R) outs outs') :
      Echoes R (.reported outs) (.reported outs')
  | ensured : Echoes R .ensured .ensured

section MapStat

variable {f f' : Stat → Stat}

/-- An answer with its stat changed. -/
def Answer.mapStat (f : Stat → Stat) : Answer → Answer
  | .created p z => .created p (z.map f)
  | .dataSet z => .dataSet (f z)
  | a => a

/-- An outcome with its stat changed. -/
def Outcome.mapStat (f : Stat → Stat) (out : Outcome) : Outcome :=
  { out with stat := out.stat.map f }

/-- What a caller is told, with the stats changed. -/
def Told.mapStat (f : Stat → Stat) : Told → Told
  | .answered a => .answered (a.mapStat f)
  | .reported outs => .reported (outs.map (·.mapStat f))
  | .ensured => .ensured

theorem map_eq_of_rel {z z' : Option Stat} (h : Option.Rel (Stat.Echoes R) z z')
    (hf : ∀ z z', Stat.Echoes R z z' → f' z' = f z) : z'.map f' = z.map f := by
  cases h with
  | none => rfl
  | some h => exact congrArg some (hf _ _ h)

theorem Answer.Echoes.mapStat_eq {a a' : Answer} (h : a.Echoes R .whole .whole a')
    (hf : ∀ z z', Stat.Echoes R z z' → f' z' = f z) : a'.mapStat f' = a.mapStat f := by
  cases h with
  | @created p hp z z' hz => exact congrArg (Answer.created p) (map_eq_of_rel hz hf)
  | dataSet hz => exact congrArg Answer.dataSet (hf _ _ hz)
  | deleted | checked | failed => rfl

theorem Outcome.Echoes.mapStat_eq {out out' : Outcome} (h : out.Echoes R out')
    (hf : ∀ z z', Stat.Echoes R z z' → f' z' = f z) : out'.mapStat f' = out.mapStat f := by
  obtain ⟨htype, hpath, hcreated, hstat, hcode⟩ := h
  simp only [Outcome.mapStat, htype, hpath, hcreated, hcode, map_eq_of_rel hstat hf]

/-- **What is told in the one namespace is what is told in the other**, but for the stats. -/
theorem Told.Echoes.mapStat_eq {x x' : Told} (h : x.Echoes R x')
    (hf : ∀ z z', Stat.Echoes R z z' → f' z' = f z) : x'.mapStat f' = x.mapStat f := by
  cases h with
  | answered h => exact congrArg Told.answered (h.mapStat_eq hf)
  | reported h =>
    refine congrArg Told.reported ?_
    induction h with
    | nil => rfl
    | cons hout _ ih => rw [List.map_cons, List.map_cons, hout.mapStat_eq hf, ih]
  | ensured => rfl

end MapStat

/-- An answer is reported under the path of the caller, which is the same in both namespaces. -/
theorem Answer.Echoes.reported {n n' : Namespace} {a a' : Answer} (h : a.Echoes R n n' a')
    (hn : n.IsWellFormed) (hn' : n'.IsWellFormed) :
    (Client.reported n a).Echoes R .whole .whole (Client.reported n' a') := by
  cases h with
  | @created p hp z z' hz =>
    simp only [Client.reported, hn.unfix_fix hp, hn'.unfix_fix hp]
    exact .created hp hz
  | deleted => exact .deleted
  | dataSet hz => exact .dataSet hz
  | checked => exact .checked
  | failed code => exact .failed code

/-- What can be told of an answer can be told of one that agrees with it. -/
theorem Answer.Echoes.outcome {n n' : Namespace} {a a' : Answer} {e : BatchEntry} {out : Outcome}
    (h : a.Echoes R n n' a') (e' : BatchEntry) (hn : n.IsWellFormed) (hn' : n'.IsWellFormed)
    (htype : e'.type = e.type) (hpath : e'.path = e.path) (hout : e.outcome n a = .ok out) :
    ∃ out', e'.outcome n' a' = .ok out' ∧ out.Echoes R out' := by
  obtain ⟨request, type, path⟩ := e
  obtain ⟨request', type', path'⟩ := e'
  dsimp only at htype hpath
  subst htype hpath
  cases h with
  | @created p hp z z' hz =>
    cases type' with
    | create =>
      obtain rfl := Except.ok.inj hout
      refine ⟨_, rfl, rfl, rfl, ?_, hz, rfl⟩
      rw [hn.unfix_fix hp, hn'.unfix_fix hp]
    | delete | setData | check => cases hout
  | deleted =>
    cases type' with
    | delete =>
      obtain rfl := Except.ok.inj hout
      exact ⟨_, rfl, rfl, rfl, rfl, .none, rfl⟩
    | create | setData | check => cases hout
  | dataSet hz =>
    cases type' with
    | setData =>
      obtain rfl := Except.ok.inj hout
      exact ⟨_, rfl, rfl, rfl, rfl, .some hz, rfl⟩
    | create | delete | check => cases hout
  | checked =>
    cases type' with
    | check =>
      obtain rfl := Except.ok.inj hout
      exact ⟨_, rfl, rfl, rfl, rfl, .none, rfl⟩
    | create | delete | setData => cases hout
  | failed code =>
    obtain rfl := Except.ok.inj hout
    exact ⟨_, rfl, rfl, rfl, rfl, .none, rfl⟩

/-! ## Errors -/

/-- **A change of errors renders them**: it turns every error of the one namespace into the error of
the other that it agrees with, and nothing that decides about retries is changed. -/
structure StoreError.Renders (n n' : Namespace) (φ : StoreError → StoreError) : Prop where
  echoes : ∀ e e', StoreError.Echoes n n' e e' → e' = φ e
  code : ∀ e, (φ e).code = e.code
  isRetryable : ∀ e, (φ e).isRetryable = e.isRetryable
  aborted : ∀ e index code answers, φ e = .aborted index code answers ↔
    e = .aborted index code answers

theorem Failure.mapError_of_isRejection {φ : StoreError → StoreError} {f : Failure}
    (h : f.isRejection) : f.mapError φ = f := by
  cases f <;> first | rfl | cases h

theorem StoreError.renders_id (n : Namespace) : Renders n n id where
  echoes := by
    rintro e e' (⟨code, hp⟩ | ⟨index, code, answers⟩)
    · rfl
    · rfl
  code _ := rfl
  isRetryable _ := rfl
  aborted _ _ _ _ := .rfl

theorem Failure.mapError_id (f : Failure) : f.mapError id = f := by
  cases f <;> rfl

/-! ## Preparation -/

theorem SchemaSet.validateFor_withPath (set : SchemaSet) (p q : String) (r : Request) :
    set.validateFor p (r.withPath q) = set.validateFor p r := by
  unfold validateFor
  cases set.resolve p with
  | error v => rfl
  | ok schema => cases r <;> rfl

theorem Operation.abides_resolved {o : Operation} (h : o.request.Abides lax) (fallback : Acl) :
    (o.resolved fallback).Abides lax := by
  intro hroot
  rw [isSequential_resolved, type_resolved]
  exact h (by rwa [path_resolved] at hroot)

namespace Client

/-- **Two clients that were told the same**, but for their namespaces. -/
structure Alike (c c' : Client) : Prop where
  policy : c'.config.policy = c.config.policy
  sleeper : c'.config.sleeper = c.config.sleeper
  schemas : c'.config.schemas = c.config.schemas
  acl : c'.config.acl = c.config.acl
  closed : c'.closed = c.closed

variable {c c' : Client} {o : Operation} {os : List Operation} {index : Nat} {f : Failure}

namespace Alike

theorem refl (c : Client) : c.Alike c := ⟨rfl, rfl, rfl, rfl, rfl⟩

/-- What a client was told is a matter of its settings. -/
theorem of_settings {c₁ : Client} (h : c.Alike c') (hsettings : c₁.settings = c'.settings) :
    c.Alike c₁ := by
  have hconfig : c₁.config = c'.config := congrArg (·.config) hsettings
  have hclosed : c₁.closed = c'.closed := congrArg (·.closed) hsettings
  exact ⟨hconfig ▸ h.policy, hconfig ▸ h.sleeper, hconfig ▸ h.schemas, hconfig ▸ h.acl,
    hclosed.trans h.closed⟩

theorem validateFor (h : c.Alike c') (o : Operation) :
    c'.config.schemas.validateFor o.path (c'.request o) =
      c.config.schemas.validateFor o.path (c.request o) := by
  rw [request, request, Namespace.fixRequest, Namespace.fixRequest,
    SchemaSet.validateFor_withPath, SchemaSet.validateFor_withPath, h.schemas, h.acl]

/-- **Both clients reject an operation for the same reason**, or both send its request. -/
theorem prepare (h : c.Alike c') (o : Operation) :
    (∃ f, c.prepare o = .error f ∧ c'.prepare o = .error f) ∨
      (Path.isValid o.path ∧ c.prepare o = .ok (c.request o) ∧
        c'.prepare o = .ok (c'.request o)) := by
  by_cases hvalid : Path.isValid o.path = true
  · simp only [Client.prepare, Path.check, hvalid, if_true, checkSchema, h.validateFor o]
    cases c.config.schemas.validateFor o.path (c.request o) with
    | error v => exact .inl ⟨_, rfl, rfl⟩
    | ok => exact .inr ⟨trivial, rfl, rfl⟩
  · simp only [Client.prepare, Path.check, hvalid]
    exact .inl ⟨_, rfl, rfl⟩

theorem offends_iff (h : c.Alike c') : c'.Offends index o f ↔ c.Offends index o f := by
  constructor
  · rintro (hmalformed | ⟨hvalid, v, hv⟩)
    · exact .path hmalformed
    · exact .schema hvalid v (by rwa [h.validateFor o] at hv)
  · rintro (hmalformed | ⟨hvalid, v, hv⟩)
    · exact .path hmalformed
    · exact .schema hvalid v (by rwa [h.validateFor o])

theorem firstOffence_iff (h : c.Alike c') : c'.FirstOffence os f ↔ c.FirstOffence os f := by
  constructor
  · rintro (hempty | ⟨i, o, ho, hoffends, hfirst⟩)
    · exact .empty hempty
    · exact .operation i o ho (h.offends_iff.mp hoffends)
        fun j hj o' ho' f' hf' => hfirst j hj o' ho' f' (h.offends_iff.mpr hf')
  · rintro (hempty | ⟨i, o, ho, hoffends, hfirst⟩)
    · exact .empty hempty
    · exact .operation i o ho (h.offends_iff.mpr hoffends)
        fun j hj o' ho' f' hf' => hfirst j hj o' ho' f' (h.offends_iff.mp hf')

/-- **Both clients reject a transaction for the same reason**, or both send its requests. -/
theorem prepareBatch (h : c.Alike c') (os : List Operation) :
    (∃ f, c.prepareBatch os = .error f ∧ c'.prepareBatch os = .error f) ∨
      (c.prepareBatch os = .ok (c.entries os) ∧ c'.prepareBatch os = .ok (c'.entries os)) := by
  cases hb : c.prepareBatch os with
  | error f =>
    left
    refine ⟨f, rfl, ?_⟩
    rw [prepareBatch_eq_error_iff, h.firstOffence_iff]
    exact prepareBatch_eq_error_iff.mp hb
  | ok b =>
    right
    obtain ⟨hnone, rfl⟩ := prepareBatch_eq_ok_iff.mp hb
    refine ⟨rfl, prepareBatch_eq_ok_iff.mpr ⟨fun f hf => ?_, rfl⟩⟩
    exact hnone f (h.firstOffence_iff.mp hf)

end Alike

end Client

/-! ## Calls -/

section Calls

variable {s : Session} {st st' : Store} {n n' : Namespace} {φ : StoreError → StoreError}

/-- Both loops have the same budget if no call to come can have an unknown outcome. -/
theorem Config.retryBudget_of_serves {c : Config} (h : st.Serves s) :
    c.retryBudget (Store.link s) st = c.policy.retryLimit?.getD 0 := by
  simp [retryBudget, Store.link, h.faults]

/-- **Two clients that were told the same make calls that agree**, if their attempts do. -/
theorem Client.Alike.withRetries {α α' : Type} {P : α → α' → Prop} {I : Store → Store → Prop}
    {c c' : Client} (h : c.Alike c') (hφ : StoreError.Renders n n' φ)
    (attempt : Nat → Store → Except StoreError α × Store)
    (attempt' : Nat → Store → Except StoreError α' × Store) (hst : st.Serves s)
    (hst' : st'.Serves s)
    (hattempt : ∀ k st st', I st st' →
      Agree (StoreError.Echoes n n') P (attempt k st).1 (attempt' k st').1 ∧
        I (attempt k st).2 (attempt' k st').2) (hI : I st st') :
    Agree (fun f f' => f' = f.mapError φ) P (c.config.withRetries (Store.link s) attempt st).1
        (c'.config.withRetries (Store.link s) attempt' st').1 ∧
      (c.config.withRetries (Store.link s) attempt st).2.1 =
        (c'.config.withRetries (Store.link s) attempt' st').2.1 ∧
      I (c.config.withRetries (Store.link s) attempt st).2.2
        (c'.config.withRetries (Store.link s) attempt' st').2.2 := by
  have hoverlooks : c.config.policy.rule.Overlooks φ :=
    c.config.policy.overlooks_rule hφ.code hφ.isRetryable
  have hrendered : ∀ k st st', I st st' →
      Agree (fun e e' => e' = φ e) P (attempt k st).1 (attempt' k st').1 ∧
        I (attempt k st).2 (attempt' k st').2 := by
    intro k st st' hI
    obtain ⟨hagree, hkept⟩ := hattempt k st st' hI
    exact ⟨hagree.mono hφ.echoes fun _ _ hP => hP, hkept⟩
  rw [Config.withRetries, Config.withRetries, Config.retryBudget_of_serves hst,
    Config.retryBudget_of_serves hst', h.policy, h.sleeper]
  have hrun := RetryLoop.run_agree c.config.sleeper.surroundings
    (c.config.policy.retryLimit?.getD 0) .fresh hoverlooks hrendered hI
  exact ⟨hrun.1, congrArg RetryLoop.sleeps hrun.2.1, hrun.2.2⟩

/-- A refusal shows a request to have been applied if a create finds its node and is not sequential,
or if a delete finds none. -/
theorem Request.replayed?_refused (r : Request) (code : ErrorCode) (p : Option String) :
    r.replayed? (.refused code p) =
      if code = .nodeExists ∧ r.type = .create ∧ r.isSequential = false then
        some (.created r.path none)
      else if code = .noNode ∧ r.type = .delete then some .deleted
      else none := by
  cases r with
  | create q data acl mode =>
    cases code <;> cases hmode : mode.isSequential <;>
      simp [replayed?, type, isSequential, mode?, path, hmode]
  | createContainer q data acl =>
    cases code <;> simp [replayed?, type, isSequential, mode?, path, CreateMode.isSequential]
  | delete | deleteContainer => cases code <;> simp [replayed?, type]
  | setData | check => simp [replayed?, type]

/-- A repeat that is refused because its work is done is so in both namespaces. -/
theorem Request.settled_agree {r : Request} {x x' : Except StoreError Answer} (k : Nat)
    (hp : Path.isValid r.path)
    (h : Agree (StoreError.Echoes n n') (Answer.Echoes R n n') x x') :
    Agree (StoreError.Echoes n n') (Answer.Echoes R n n') ((n.fixRequest r).settled k x)
      ((n'.fixRequest r).settled k x') := by
  cases h with
  | ok ha => exact .ok ha
  | @error e e' he =>
    -- the first sending is never taken for a repeat
    by_cases hk : k = 0
    · simp only [settled, hk, if_true]
      exact .error he
    simp only [settled, hk, if_false]
    cases he with
    | aborted index code answers => cases r <;> exact .error (.aborted index code answers)
    | @refused code p hq =>
      simp only [replayed?_refused, Namespace.fixRequest, type_withPath, isSequential_withPath,
        path_withPath]
      by_cases hthere : code = .nodeExists ∧ r.type = .create ∧ r.isSequential = false
      · rw [if_pos hthere, if_pos hthere]
        exact .ok (Answer.Echoes.created hp .none)
      by_cases hgone : code = .noNode ∧ r.type = .delete
      · rw [if_neg hthere, if_neg hthere, if_pos hgone]
        exact .ok Answer.Echoes.deleted
      · rw [if_neg hthere, if_neg hthere, if_neg hgone]
        exact .error (.refused code hq)

/-- What can be told of the answers to a batch can be told of answers that agree with them. -/
theorem Client.exists_matched_of_echoes {c : Client} (c' : Client) {os : List Operation}
    {answers answers' : List Answer} {outs : List Outcome} (hn : n.IsWellFormed)
    (hn' : n'.IsWellFormed) (h : List.Forall₂ (Answer.Echoes R n n') answers answers')
    (hout : (c.entries os).matched n answers = .ok outs) :
    ∃ outs', (c'.entries os).matched n' answers' = .ok outs' ∧
      List.Forall₂ (Outcome.Echoes R) outs outs' := by
  induction os generalizing answers answers' outs with
  | nil =>
    obtain rfl := Except.ok.inj hout
    exact ⟨[], rfl, .nil⟩
  | cons o os ih =>
    cases h with
    | nil =>
      obtain rfl := Except.ok.inj hout
      exact ⟨[], rfl, .nil⟩
    | cons ha h =>
      simp only [entries, List.map_cons, Batch.matched] at hout ⊢
      split at hout
      · cases hout
      · rename_i out hfirst
        split at hout
        · cases hout
        · rename_i outs hrest
          obtain rfl := Except.ok.inj hout
          obtain ⟨out', hfirst', hecho⟩ :=
            ha.outcome (c'.entry o) hn hn' rfl rfl hfirst
          obtain ⟨outs', hrest', hechoes⟩ := ih h hrest
          rw [hfirst']
          simp only [entries] at hrest'
          simp only [hrest']
          exact ⟨_, rfl, .cons hecho hechoes⟩

namespace Client

variable {c c' : Client} {o : Operation} {os : List Operation} {b : Batch} {f : Failure}
  {rs : List Request} {index : Nat} {code : ErrorCode} {answers : List Answer}

/-! ### What a transaction reports -/

/-- Every failure but an aborted batch is reported as it is. -/
theorem conclude_of_not_aborted
    (hf : ¬ ∃ index code answers, f = .store (.aborted index code answers)) :
    conclude n b (.error f) = .error f := by
  unfold conclude
  split
  · rename_i heq
    cases heq
  · rename_i index code answers heq
    exact absurd ⟨index, code, answers, Except.error.inj heq⟩ hf
  · rename_i heq
    rw [Except.error.inj heq]

/-- What is reported of an aborted batch is not an error of the store. -/
theorem mapError_of_conclude_aborted
    (h : conclude n b (.error (.store (.aborted index code answers))) = .error f) :
    f.mapError φ = f := by
  simp only [conclude] at h
  split at h
  · rename_i f' houtcomes
    obtain rfl := Except.error.inj h
    unfold Batch.outcomes at houtcomes
    split at houtcomes
    · obtain ⟨message, rfl⟩ := Batch.matched_eq_error houtcomes
      rfl
    · obtain rfl := Except.error.inj houtcomes
      rfl
  · obtain rfl := Except.error.inj h
    rfl

/-- What is reported of codes names nothing of the namespace. -/
theorem conclude_codes (c c' : Client) (os : List Operation) (index : Nat) (code : ErrorCode)
    (codes : List ErrorCode) :
    conclude n' (c'.entries os) (.error (.store (.aborted index code (codes.map .failed)))) =
      conclude n (c.entries os) (.error (.store (.aborted index code (codes.map .failed)))) := by
  have hlength : (c'.entries os).length = (c.entries os).length := by simp [entries]
  have hmatched : (c'.entries os).matched n' (codes.map .failed) =
      (c.entries os).matched n (codes.map .failed) := by
    rw [Batch.matched_failed, Batch.matched_failed, entries, entries, List.zipWith_map_left,
      List.zipWith_map_left]
    rfl
  have hpath : ((c'.entries os)[index]?.map (·.path)) =
      ((c.entries os)[index]?.map (·.path)) := by
    simp only [entries, List.getElem?_map, Option.map_map]
    rfl
  simp only [conclude, Batch.outcomes, hlength, hmatched, hpath]

/-- A client whose root has been ensured is answered with codes when its batch is aborted. -/
theorem exists_codes_of_aborted (hroot : c.IsRooted)
    (h : (c.config.withRetries (Store.link s) (fun _ st => (Store.link s).multi st rs) st).1 =
      .error (.store (.aborted index code answers))) :
    ∃ codes : List ErrorCode, answers = codes.map .failed := by
  have hcall : (c.call (Store.link s) (fun _ st => st.multi s rs) st).1 =
      .error (.store (.aborted index code answers)) := by
    rw [call_of_isRooted hroot]
    exact h
  obtain ⟨st₁, hmulti⟩ := exists_multi_of_call_aborted hcall
  obtain ⟨-, hanswers⟩ := Store.eq_abortedBatch_of_multi hmulti
  simp only [StoreError.abortedBatch, StoreError.aborted.injEq, true_and] at hanswers
  refine ⟨(List.range rs.length).map fun i =>
    if i = index then code else .runtimeInconsistency, ?_⟩
  rw [hanswers, List.map_map]
  rfl

namespace Alike

/-- What a transaction reports in the one namespace agrees with what it reports in the other. An
aborted batch is answered with codes, which are the same in both. -/
theorem conclude {x x' : Except Failure (List Answer)} (hn : n.IsWellFormed)
    (hn' : n'.IsWellFormed) (hφ : StoreError.Renders n n' φ)
    (h : Agree (fun f f' => f' = f.mapError φ) (List.Forall₂ (Answer.Echoes R n n')) x x')
    (htold : ∀ message, Client.conclude n (c.entries os) x ≠ .error (.protocol message))
    (habort : ∀ index code answers, x = .error (.store (.aborted index code answers)) →
      ∃ codes : List ErrorCode, answers = codes.map .failed) :
    Agree (fun f f' => f' = f.mapError φ) (List.Forall₂ (Outcome.Echoes R))
      (Client.conclude n (c.entries os) x) (Client.conclude n' (c'.entries os) x') := by
  have hlength : (c'.entries os).length = (c.entries os).length := by simp [entries]
  cases h with
  | @ok answers answers' hanswers =>
    simp only [Client.conclude, Batch.outcomes] at htold ⊢
    rw [hlength, ← hanswers.length_eq]
    by_cases hfit : answers.length = (c.entries os).length
    · simp only [hfit, if_true] at htold ⊢
      cases hmatched : (c.entries os).matched n answers with
      | error f =>
        obtain ⟨message, rfl⟩ := Batch.matched_eq_error hmatched
        exact absurd hmatched (htold message)
      | ok outs =>
        obtain ⟨outs', hmatched', hechoes⟩ :=
          exists_matched_of_echoes c' hn hn' hanswers hmatched
        rw [hmatched']
        exact .ok hechoes
    · simp only [hfit, if_false] at htold
      exact absurd rfl (htold _)
  | @error f f' hf =>
    subst hf
    by_cases hstore : ∃ index code answers, f = .store (.aborted index code answers)
    · obtain ⟨index, code, answers, rfl⟩ := hstore
      obtain ⟨codes, rfl⟩ := habort index code answers rfl
      -- codes are told alike, and what is told of them is no error of the store
      have hmap : (Failure.store (.aborted index code (codes.map .failed))).mapError φ =
          .store (.aborted index code (codes.map .failed)) :=
        congrArg Failure.store ((hφ.aborted _ _ _ _).mpr rfl)
      rw [hmap, conclude_codes (n := n) c c']
      cases hconclude : Client.conclude n (c.entries os)
          (.error (.store (.aborted index code (codes.map .failed)))) with
      | ok outs =>
        obtain ⟨answers, hok, -⟩ := conclude_eq_ok hconclude
        cases hok
      | error f => exact .error (mapError_of_conclude_aborted hconclude).symm
    · have hstore' : ¬ ∃ index code answers,
          f.mapError φ = .store (.aborted index code answers) := by
        rintro ⟨index, code, answers, heq⟩
        cases f with
        | store e =>
          have he : e = .aborted index code answers :=
            (hφ.aborted e _ _ _).mp (Failure.store.inj heq)
          exact hstore ⟨index, code, answers, by rw [he]⟩
        | _ => cases heq
      rw [conclude_of_not_aborted hstore, conclude_of_not_aborted hstore']
      exact .error rfl

/-! ### Operations and transactions -/

variable (h : c.Alike c') (hφ : StoreError.Renders c.space c'.space φ) (hroot : c.IsRooted)
  (hroot' : c'.IsRooted) (hR : ∀ a b, R a b → R (a + 1) (b + 1))
  (hst : st.Twins R lax c.space c'.space s st')

include h hφ hroot hroot' hR hst

/-- **Two clients that were told the same run an operation alike.** -/
theorem execute (ho : o.request.Abides lax) :
    Agree (fun f f' => f' = f.mapError φ) (Answer.Echoes R .whole .whole)
        (c.execute (Store.link s) o st).1 (c'.execute (Store.link s) o st').1 ∧
      (∃ sleeps, (c.execute (Store.link s) o st).2.1 = c.slept sleeps ∧
        (c'.execute (Store.link s) o st').2.1 = c'.slept sleeps) ∧
      (c.execute (Store.link s) o st).2.2.Twins R lax c.space c'.space s
        (c'.execute (Store.link s) o st').2.2 := by
  have hn : c.space.IsWellFormed := fun root heq => (hroot root heq).1
  have hn' : c'.space.IsWellFormed := fun root heq => (hroot' root heq).1
  cases hopen : c.closed with
  | true =>
    have hopen' : c'.closed = true := h.closed.trans hopen
    simp only [Client.execute, Client.checkOpen, hopen, hopen', if_true]
    exact ⟨.error rfl, ⟨[], (slept_nil c).symm, (slept_nil c').symm⟩, hst⟩
  | false =>
    have hopen' : c'.closed = false := h.closed.trans hopen
    rcases h.prepare o with ⟨f, hf, hf'⟩ | ⟨hvalid, hr, hr'⟩
    · have hrejection := isRejection_of_prepare hf
      simp only [Client.execute, Client.checkOpen, hopen, hopen', hf, hf']
      exact ⟨.error (Failure.mapError_of_isRejection hrejection).symm,
        ⟨[], (slept_nil c).symm, (slept_nil c').symm⟩, hst⟩
    · rw [execute_of_prepared hroot hopen hr, execute_of_prepared hroot' hopen' hr']
      have hvalid' : Path.isValid (o.resolved c.config.acl).path := by
        rwa [Operation.path_resolved]
      have hattempt : ∀ k (st st' : Store), st.Twins R lax c.space c'.space s st' →
          Agree (StoreError.Echoes c.space c'.space) (Answer.Echoes R c.space c'.space)
              (attempt (Store.link s) (c.request o) k st).1
              (attempt (Store.link s) (c'.request o) k st').1 ∧
            (attempt (Store.link s) (c.request o) k st).2.Twins R lax c.space c'.space s
              (attempt (Store.link s) (c'.request o) k st').2 := by
        intro k st st' hst
        have hsubmit := hst.submit hn hn' hR hvalid' (Operation.abides_resolved ho _)
        have hsettled := Request.settled_agree k hvalid' hsubmit.1
        simp only [attempt, Store.link, request, h.acl]
        exact ⟨hsettled, hsubmit.2⟩
      obtain ⟨hresult, hsleeps, hfinal⟩ :=
        h.withRetries hφ _ _ hst.echoes.serves hst.echoes.serves' hattempt hst
      refine ⟨hresult.map fun a a' ha => ha.reported hn hn', ⟨_, rfl, ?_⟩, hfinal⟩
      rw [hsleeps]

/-- **Two clients that were told the same run a transaction alike.** -/
theorem submit (hos : ∀ o ∈ os, o.request.Abides lax) :
    Agree (fun f f' => f' = f.mapError φ) (List.Forall₂ (Outcome.Echoes R))
        (c.submit (Store.link s) os st).1 (c'.submit (Store.link s) os st').1 ∧
      (∃ sleeps, (c.submit (Store.link s) os st).2.1 = c.slept sleeps ∧
        (c'.submit (Store.link s) os st').2.1 = c'.slept sleeps) ∧
      (c.submit (Store.link s) os st).2.2.Twins R lax c.space c'.space s
        (c'.submit (Store.link s) os st').2.2 := by
  have hn : c.space.IsWellFormed := fun root heq => (hroot root heq).1
  have hn' : c'.space.IsWellFormed := fun root heq => (hroot' root heq).1
  cases hopen : c.closed with
  | true =>
    have hopen' : c'.closed = true := h.closed.trans hopen
    simp only [Client.submit, Client.checkOpen, hopen, hopen', if_true]
    exact ⟨.error rfl, ⟨[], (slept_nil c).symm, (slept_nil c').symm⟩, hst⟩
  | false =>
    have hopen' : c'.closed = false := h.closed.trans hopen
    rcases h.prepareBatch os with ⟨f, hf, hf'⟩ | ⟨hb, hb'⟩
    · have hrejection := isRejection_of_prepareBatch hf
      simp only [Client.submit, Client.checkOpen, hopen, hopen', hf, hf']
      exact ⟨.error (Failure.mapError_of_isRejection hrejection).symm,
        ⟨[], (slept_nil c).symm, (slept_nil c').symm⟩, hst⟩
    · have htold : ∀ message,
          (c.submit (Store.link s) os st).1 ≠ .error (.protocol message) :=
        submit_ne_protocol
      rw [submit_of_prepared hroot hopen hb] at htold ⊢
      rw [submit_of_prepared hroot' hopen' hb']
      have hvalid : ∀ r ∈ os.map (·.resolved c.config.acl), Path.isValid r.path ∧ r.Abides lax := by
        intro r hr
        obtain ⟨o, ho, rfl⟩ := List.mem_map.mp hr
        rw [Operation.path_resolved]
        exact ⟨isValid_of_prepareBatch hb o ho, Operation.abides_resolved (hos o ho) _⟩
      have hrequests : (c.entries os).requests =
          (os.map (·.resolved c.config.acl)).map c.space.fixRequest := by
        rw [requests_entries, List.map_map]
        rfl
      have hrequests' : (c'.entries os).requests =
          (os.map (·.resolved c.config.acl)).map c'.space.fixRequest := by
        rw [requests_entries, List.map_map, ← h.acl]
        rfl
      have hattempt : ∀ (_ : Nat) (st st' : Store), st.Twins R lax c.space c'.space s st' →
          Agree (StoreError.Echoes c.space c'.space)
              (List.Forall₂ (Answer.Echoes R c.space c'.space))
              ((Store.link s).multi st (c.entries os).requests).1
              ((Store.link s).multi st' (c'.entries os).requests).1 ∧
            ((Store.link s).multi st (c.entries os).requests).2.Twins R lax c.space c'.space s
              ((Store.link s).multi st' (c'.entries os).requests).2 := by
        intro _ st st' hst
        simp only [Store.link, hrequests, hrequests']
        exact hst.multi hn hn' hR hvalid
      obtain ⟨hresult, hsleeps, hfinal⟩ :=
        h.withRetries hφ _ _ hst.echoes.serves hst.echoes.serves' hattempt hst
      refine ⟨Alike.conclude hn hn' hφ hresult htold
        (fun _ _ _ => exists_codes_of_aborted hroot), ⟨_, rfl, ?_⟩, hfinal⟩
      rw [hsleeps]

/-- **Two clients that were told the same do a task alike**, unless it is to ensure a path. -/
theorem perform {k : Task} (hk : ∀ o ∈ k.operations, o.request.Abides lax)
    (hpath : ∀ p, k ≠ .ensurePath p) :
    Agree (fun f f' => f' = f.mapError φ) (Told.Echoes R)
        (c.perform (Store.link s) k st).1 (c'.perform (Store.link s) k st').1 ∧
      (∃ sleeps, (c.perform (Store.link s) k st).2.1 = c.slept sleeps ∧
        (c'.perform (Store.link s) k st').2.1 = c'.slept sleeps) ∧
      (c.perform (Store.link s) k st).2.2.Twins R lax c.space c'.space s
        (c'.perform (Store.link s) k st').2.2 := by
  cases k with
  | execute o =>
    obtain ⟨hresult, hclients, hfinal⟩ :=
      h.execute hφ hroot hroot' hR hst (hk o List.mem_cons_self)
    exact ⟨hresult.map fun _ _ ha => .answered ha, hclients, hfinal⟩
  | submit os =>
    obtain ⟨hresult, hclients, hfinal⟩ := h.submit hφ hroot hroot' hR hst hk
    exact ⟨hresult.map fun _ _ houts => .reported houts, hclients, hfinal⟩
  | ensurePath p => exact absurd rfl (hpath p)

/-- **Two clients that were told the same do one task after the other alike.** -/
theorem performAll {ks : List Task}
    (hks : ∀ k ∈ ks, (∀ p, k ≠ .ensurePath p) ∧ ∀ o ∈ k.operations, o.request.Abides lax) :
    List.Forall₂ (Agree (fun f f' => f' = f.mapError φ) (Told.Echoes R))
        (c.performAll (Store.link s) ks st).1 (c'.performAll (Store.link s) ks st').1 ∧
      (c.performAll (Store.link s) ks st).2.2.Twins R lax c.space c'.space s
        (c'.performAll (Store.link s) ks st').2.2 := by
  induction ks generalizing c c' st st' with
  | nil => exact ⟨.nil, hst⟩
  | cons k ks ih =>
    obtain ⟨hpath, hk⟩ := hks k List.mem_cons_self
    obtain ⟨hresult, ⟨sleeps, hclient, hclient'⟩, hnext⟩ :=
      h.perform hφ hroot hroot' hR hst hk hpath
    simp only [Client.performAll, hclient, hclient']
    have halike : (c.slept sleeps).Alike (c'.slept sleeps) :=
      ⟨h.policy, h.sleeper, h.schemas, h.acl, h.closed⟩
    obtain ⟨hresults, hfinal⟩ := ih halike hφ hroot hroot' hnext
      fun k hk => hks k (List.mem_cons_of_mem _ hk)
    exact ⟨.cons hresult hresults, hfinal⟩

end Alike

end Client

end Calls

/-- **Two clients that were told the same reject a task for the same reason**, whatever they have
behind their links, or else the second does it as if its root had been ensured before. -/
theorem Client.Alike.perform_cases {σ : Type} {c c' : Client} {k : Task} (link : Link σ)
    (h : c.Alike c') (hpath : ∀ p, k ≠ .ensurePath p) :
    (∃ f, f.isRejection ∧ ∀ s, c.perform link k s = (.error f, c, s) ∧
      c'.perform link k s = (.error f, c', s)) ∨
    ∀ s c₁ s₁, c'.ensureRoot link s = (.ok (), c₁, s₁) → c₁.IsRooted →
      c'.perform link k s = c₁.perform link k s₁ := by
  cases hopen' : c'.closed with
  | true =>
    have hopen : c.closed = true := h.closed.symm.trans hopen'
    refine .inl ⟨.shuttingDown, rfl, fun s => ?_⟩
    cases k with
    | execute o =>
      simp [Client.perform, Client.execute, Client.checkOpen, hopen, hopen', Except.map]
    | submit os => simp [Client.perform, Client.submit, Client.checkOpen, hopen, hopen', Except.map]
    | ensurePath p => exact absurd rfl (hpath p)
  | false =>
    have hopen : c.closed = false := h.closed.symm.trans hopen'
    cases k with
    | execute o =>
      rcases h.prepare o with ⟨f, hf, hf'⟩ | ⟨-, -, hr'⟩
      · refine .inl ⟨f, isRejection_of_prepare hf, fun s => ?_⟩
        simp [Client.perform, Client.execute, Client.checkOpen, hopen, hopen', hf, hf', Except.map]
      · right
        intro s c₁ s₁ hroot hrooted
        simp only [Client.perform, execute_of_ensureRoot hroot hrooted hopen' hr']
    | submit os =>
      rcases h.prepareBatch os with ⟨f, hf, hf'⟩ | ⟨-, hb'⟩
      · refine .inl ⟨f, isRejection_of_prepareBatch hf, fun s => ?_⟩
        simp [Client.perform, Client.submit, Client.checkOpen, hopen, hopen', hf, hf', Except.map]
      · right
        intro s c₁ s₁ hroot hrooted
        simp only [Client.perform, submit_of_ensureRoot hroot hrooted hopen' hb']
    | ensurePath p => exact absurd rfl (hpath p)

end Coordination
