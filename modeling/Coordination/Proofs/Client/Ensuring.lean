import Coordination.Proofs.Client.Calls
import Coordination.Proofs.Retry.Parallel
import Coordination.Proofs.Store.Reach

/-!
# A path is ensured once

An ensurer asks for the nodes on the way to a path until it has succeeded, and then never again. It
does not look whether the node is still there: what it says is that the node has been there, not
that it is.

## What can happen in between

Between two calls of an ensurer anything may become of the store: the state behind its line may be
replaced by any other. Nothing is asked of the line either, which may lose answers, make them up, or
let others change the state while a call is under way. So what is said of an ensurer here does not
rest on what the store does, but on what the ensurer itself keeps in mind; and that it does not ask
the store anything can only mean that it answers in the same way over every line and in every state.

## Main definitions

* `Link.recorded`: a line that takes down what it is asked for
* `Ensurer.Call`, `Ensurer.Deed`: a call of an ensurer, and what else may happen
* `Ensurer.after`, `Ensurer.told`: an ensurer after some deeds, and what its callers were told
* `Ensurer.Tries`: what it takes to try for a path

## Main results

* `Ensurer.ask_of_isEnsured`: no questions are asked about a path that has been ensured
* `Ensurer.exists_tries_of_ask`: all nodes on the way are asked for if it has not
* `Ensurer.ensured_once`: what an ensurer remembers, and what it does about it
-/

namespace Coordination

variable {σ : Type} {link : Link σ} {c : Config} {e : Ensurer} {p q : String} {ps : List String}
  {s : σ}

/-- The line that takes down what it is asked for. -/
def Link.recorded (link : Link σ) : Link (σ × List Request) :=
  { submit := fun x r => ((link.submit x.1 r).1, (link.submit x.1 r).2, x.2 ++ [r])
    multi := fun x rs => ((link.multi x.1 rs).1, (link.multi x.1 rs).2, x.2 ++ rs)
    exists? := fun x p => link.exists? x.1 p
    isConnected := fun x => link.isConnected x.1
    lossBound := fun x => link.lossBound x.1 }

namespace Ensurer

/-! ## Tries -/

/-- **Whether these are tries for some paths**: there is one at least, each begins at the top and
gets as far as it gets, and the last one gets to the end if the tries are to be a success. -/
structure Tries (ps : List String) (success : Bool) (tries : List (List String)) : Prop where
  /-- There is a try. -/
  tried : tries ≠ []
  /-- Each begins at the top. -/
  fromTop : ∀ t ∈ tries, t <+: ps ∧ (ps ≠ [] → t ≠ [])
  /-- The last one is complete. -/
  complete : success → tries.getLast? = some ps

/-- One try. -/
theorem exists_try_of_createLineage (link : Link σ) (e : Ensurer) (ps : List String) (s : σ)
    (sent : List Request) :
    ∃ t, Tries ps (createLineage link e ps s).1.isOk [t] ∧
      createLineage link.recorded e ps (s, sent) =
        ((createLineage link e ps s).1, (createLineage link e ps s).2,
          sent ++ t.map e.request) := by
  induction ps generalizing s sent with
  | nil =>
    refine ⟨[], ⟨by simp, by simp, by simp⟩, ?_⟩
    rw [List.map_nil, List.append_nil]
    rfl
  | cons p ps ih =>
    -- the rest is tried if the node has come or will do
    have hrest : ∀ s', ∃ t, Tries (p :: ps) (createLineage link e ps s').1.isOk [p :: t] ∧
        createLineage link.recorded e ps (s', sent ++ [e.request p]) =
          ((createLineage link e ps s').1, (createLineage link e ps s').2,
            sent ++ (p :: t).map e.request) := by
      intro s'
      obtain ⟨t, ht, heq⟩ := ih s' (sent ++ [e.request p])
      refine ⟨t, ⟨by simp, ?_, ?_⟩, ?_⟩
      · simpa using (ht.fromTop t List.mem_cons_self).1
      · intro hok
        simpa using ht.complete hok
      · rw [heq, List.map_cons, List.append_assoc, List.singleton_append]
    have hsubmit : link.recorded.submit (s, sent) (e.request p) =
        ((link.submit s (e.request p)).1, (link.submit s (e.request p)).2,
          sent ++ [e.request p]) := rfl
    rw [createLineage, createLineage, hsubmit]
    rcases link.submit s (e.request p) with ⟨refusal | a, s'⟩
    · have htolerates : tolerates link.recorded (s', sent ++ [e.request p]) p refusal =
          tolerates link s' p refusal := rfl
      dsimp only
      rw [htolerates]
      cases tolerates link s' p refusal with
      | error e' => exact ⟨[p], ⟨by simp, by simp, by rintro ⟨⟩⟩, rfl⟩
      | ok =>
        obtain ⟨t, ht, heq⟩ := hrest s'
        exact ⟨p :: t, ht, heq⟩
    · obtain ⟨t, ht, heq⟩ := hrest s'
      exact ⟨p :: t, ht, heq⟩

/-- **As many tries as the retry loop makes attempts.** -/
theorem exists_tries_of_run (rule : RetryRule) (around : Surroundings) (link : Link σ) (e : Ensurer)
    (ps : List String) (budget : Nat) (l : RetryLoop) (s : σ) (sent : List Request) :
    ∃ tries,
      Tries ps (RetryLoop.run rule around (fun _ => createLineage link e ps) budget l s).1.isOk
        tries ∧
      RetryLoop.run rule around (fun _ => createLineage link.recorded e ps) budget l (s, sent) =
        ((RetryLoop.run rule around (fun _ => createLineage link e ps) budget l s).1,
          (RetryLoop.run rule around (fun _ => createLineage link e ps) budget l s).2.1,
          (RetryLoop.run rule around (fun _ => createLineage link e ps) budget l s).2.2,
          sent ++ tries.flatten.map e.request) := by
  -- the recorded loop follows the cases of the other one
  induction budget, l, s using
    RetryLoop.run_induction rule around (fun _ => createLineage link e ps) generalizing sent with
  | ok budget l s a s' ha =>
    obtain ⟨t, ht, heq⟩ := exists_try_of_createLineage link e ps s sent
    rw [ha] at ht heq
    refine ⟨[t], ?_, ?_⟩
    · rw [RetryLoop.run_of_ok ha]
      exact ht
    · rw [RetryLoop.run_of_ok heq, RetryLoop.run_of_ok ha, List.flatten_singleton]
  | ended budget l s err s' herr hend =>
    obtain ⟨t, ht, heq⟩ := exists_try_of_createLineage link e ps s sent
    rw [herr] at ht heq
    refine ⟨[t], ?_, ?_⟩
    · rw [RetryLoop.run_of_end_eq herr hend]
      exact ht
    · rw [RetryLoop.run_of_end_eq heq hend, RetryLoop.run_of_end_eq herr hend,
        List.flatten_singleton]
  | retry budget l s err s' sleep herr hnext ih =>
    obtain ⟨t, ht, heq⟩ := exists_try_of_createLineage link e ps s sent
    rw [herr] at ht heq
    obtain ⟨tries, htries, hrun⟩ := ih (sent ++ t.map e.request)
    refine ⟨t :: tries, ?_, ?_⟩
    · rw [RetryLoop.run_of_retry herr hnext]
      refine ⟨by simp, ?_, ?_⟩
      · rintro t' (_ | ⟨_, ht'⟩)
        · exact ht.fromTop _ List.mem_cons_self
        · exact htries.fromTop _ ht'
      · intro hok
        rw [List.getLast?_cons_of_ne_nil htries.tried]
        exact htries.complete hok
    · rw [RetryLoop.run_of_retry heq hnext, RetryLoop.run_of_retry herr hnext, hrun,
        List.flatten_cons, List.map_append, List.append_assoc]

/-! ## Calls -/

/-- A call of an ensurer. -/
inductive Call where
  /-- To ensure a path, with retries. -/
  | ensure (p : String)
  /-- To ensure a path in one attempt. -/
  | ensureOnce (p : String)

/-- The path that a call is about. -/
def Call.path : Call → String
  | ensure p | ensureOnce p => p

/-- Whether a call makes no more than one attempt. -/
def Call.isSingle : Call → Bool
  | ensure _ => false
  | ensureOnce _ => true

/-- What a call is told, with the ensurer and the state after it. -/
def ask (link : Link σ) (c : Config) (e : Ensurer) : Call → σ → Except Failure Unit × Ensurer × σ
  | .ensure p, s =>
    let (result, e', _, s') := e.ensure link c p s
    (result, e', s')
  | .ensureOnce p, s => e.ensureOnce link p s

/-- What a call does about a path that has not been ensured. -/
def work (link : Link σ) (c : Config) (e : Ensurer) : Call → σ → Except Failure Unit × σ
  | .ensure p, s =>
    let (result, _, s') := c.withRetries link (fun _ => attempt link e p) s
    (result, s')
  | .ensureOnce p, s =>
    match attempt link e p s with
    | (.ok (), s') => (.ok (), s')
    | (.error refusal, s') => (.error (.store refusal), s')

variable {k : Call}

theorem ask_of_not_isValid (h : Path.isValid k.path = false) (link : Link σ) (c : Config)
    (e : Ensurer) (s : σ) :
    ∃ message, e.ask link c k s = (.error (.invalidArgument message), e, s) := by
  cases k with
  | ensure p =>
    change Path.isValid p = false at h
    simp [ask, ensure, ensureBy, Path.check, h]
  | ensureOnce p =>
    change Path.isValid p = false at h
    simp [ask, ensureOnce, ensureBy, Path.check, h]

/-- **No questions are asked about a path that has been ensured**: the answer is the same over every
line and in every state, and the state stays as it is. -/
theorem ask_of_isEnsured (hvalid : Path.isValid k.path) (h : e.isEnsured k.path) (link : Link σ)
    (c : Config) (s : σ) : e.ask link c k s = (.ok (), e, s) := by
  cases k with
  | ensure p =>
    change Path.isValid p at hvalid
    rw [ask, ensure, ensureBy_of_isEnsured hvalid h]
  | ensureOnce p =>
    change Path.isValid p at hvalid
    rw [ask, ensureOnce, ensureBy_of_isEnsured hvalid h]

/-- **A path that has not been ensured is worked on**, and remembered if the work succeeds. -/
theorem ask_of_not_isEnsured (hvalid : Path.isValid k.path) (h : e.isEnsured k.path = false)
    (link : Link σ) (c : Config) (s : σ) :
    e.ask link c k s =
      ((e.work link c k s).1, if (e.work link c k s).1.isOk then e.remember k.path else e,
        (e.work link c k s).2) := by
  cases k with
  | ensure p =>
    change Path.isValid p at hvalid
    rw [ask, ensure, ensureBy_of_not_isEnsured hvalid h]
    rfl
  | ensureOnce p =>
    change Path.isValid p at hvalid
    rw [ask, ensureOnce, ensureBy_of_not_isEnsured hvalid h, work]
    rcases attempt link e p s with ⟨refusal | ⟨⟩, s'⟩ <;> rfl

/-- **The nodes on the way are asked for**, as often as the call is tried. -/
theorem exists_tries_of_work (link : Link σ) (c : Config) (e : Ensurer) (k : Call) (s : σ)
    (sent : List Request) :
    ∃ tries, Tries (Path.lineage (e.space.fix k.path)) (e.work link c k s).1.isOk tries ∧
      (k.isSingle → tries.length = 1) ∧
      e.work link.recorded c k (s, sent) =
        ((e.work link c k s).1, (e.work link c k s).2, sent ++ tries.flatten.map e.request) := by
  cases k with
  | ensure p =>
    obtain ⟨tries, htries, hrun⟩ := exists_tries_of_run c.policy.rule c.sleeper.surroundings link e
      (Path.lineage (e.space.fix p)) (c.retryBudget link s) .fresh s sent
    refine ⟨tries, htries, by rintro ⟨⟩, ?_⟩
    simp only [work, Config.withRetries]
    exact congrArg (fun x => (x.1, x.2.2)) hrun
  | ensureOnce p =>
    obtain ⟨t, ht, heq⟩ :=
      exists_try_of_createLineage link e (Path.lineage (e.space.fix p)) s sent
    refine ⟨[t], ?_, fun _ => rfl, ?_⟩
    · refine ⟨ht.tried, ht.fromTop, fun hok => ht.complete ?_⟩
      simp only [work, attempt] at hok
      rcases hresult : createLineage link e (Path.lineage (e.space.fix p)) s with ⟨refusal | ⟨⟩, s'⟩
      · rw [hresult] at hok
        cases hok
      · rfl
    · simp only [work, attempt]
      rw [heq, List.flatten_singleton]
      rcases createLineage link e (Path.lineage (e.space.fix p)) s with ⟨refusal | ⟨⟩, s'⟩ <;> rfl

/-! ## Deeds -/

/-- What happens to an ensurer, or behind its line. -/
inductive Deed (σ : Type) where
  /-- The ensurer is called. -/
  | call (k : Call)
  /-- The state behind the line becomes another one, whoever makes it so. -/
  | elsewhere (f : σ → σ)

/-- The ensurer and the state after one deed. -/
def done (link : Link σ) (c : Config) (x : Ensurer × σ) : Deed σ → Ensurer × σ
  | .call k => (x.1.ask link c k x.2).2
  | .elsewhere f => (x.1, f x.2)

/-- What the caller is told, and of which path. -/
def heard (link : Link σ) (c : Config) (x : Ensurer × σ) :
    Deed σ → List (String × Except Failure Unit)
  | .call k => [(k.path, (x.1.ask link c k x.2).1)]
  | .elsewhere _ => []

/-- The ensurer and the state after some deeds. -/
def after (link : Link σ) (c : Config) (x : Ensurer × σ) (ds : List (Deed σ)) : Ensurer × σ :=
  ds.foldl (done link c) x

/-- **What callers have been told**, in order. -/
def told (link : Link σ) (c : Config) : Ensurer × σ → List (Deed σ) →
    List (String × Except Failure Unit)
  | _, [] => []
  | x, d :: ds => heard link c x d ++ told link c (done link c x d) ds

/-! ## What is remembered -/

theorem isEnsured_remember : (e.remember p).isEnsured q ↔ q = p ∨ e.isEnsured q := by
  rw [isEnsured, remember, Std.ExtTreeSet.contains_insert, Bool.or_eq_true, beq_iff_eq,
    Std.LawfulEqCmp.compare_eq_iff_eq, @eq_comm _ p]
  rfl

/-- A call has a bearing on its own path only. -/
theorem isEnsured_ask_of_ne (hq : q ≠ k.path) (link : Link σ) (c : Config) (e : Ensurer) (s : σ) :
    (e.ask link c k s).2.1.isEnsured q = e.isEnsured q := by
  by_cases hvalid : Path.isValid k.path
  · cases hensured : e.isEnsured k.path with
    | true => rw [ask_of_isEnsured hvalid hensured]
    | false =>
      rw [ask_of_not_isEnsured hvalid hensured]
      dsimp only
      split
      · rw [Bool.eq_iff_iff, isEnsured_remember]
        exact or_iff_right hq
      · rfl
  · obtain ⟨message, heq⟩ := ask_of_not_isValid (by simpa using hvalid) link c e s
    rw [heq]

/-- **An ensurer remembers what its callers have been told**, and has not changed otherwise. -/
structure Remembers (start : Ensurer) (results : List (String × Except Failure Unit))
    (e : Ensurer) : Prop where
  /-- It remembers the paths that somebody has been told of as ensured. -/
  ensured : ∀ p, e.isEnsured p ↔ (p, .ok ()) ∈ results
  /-- They are paths. -/
  valid : ∀ p, e.isEnsured p → Path.isValid p
  /-- It is for the same namespace. -/
  space : e.space = start.space
  /-- It asks for the same nodes. -/
  request : e.request = start.request

variable {start : Ensurer} {results : List (String × Except Failure Unit)} {x : Ensurer × σ}
  {d : Deed σ} {ds : List (Deed σ)}

/-- A success is remembered. -/
theorem Remembers.remember (h : Remembers start results e) (hvalid : Path.isValid p) :
    Remembers start (results ++ [(p, .ok ())]) (e.remember p) where
  ensured q := by
    rw [isEnsured_remember, h.ensured q, List.mem_append, List.mem_singleton, Prod.mk.injEq]
    simp [or_comm]
  valid q hq := by
    rcases isEnsured_remember.mp hq with rfl | hq
    · exact hvalid
    · exact h.valid q hq
  space := h.space
  request := h.request

/-- What is told again, or told of a failure, makes no difference. -/
theorem Remembers.told (h : Remembers start results e) {result : Except Failure Unit}
    (hresult : result = .ok () → e.isEnsured p) : Remembers start (results ++ [(p, result)]) e where
  ensured q := by
    rw [h.ensured q, List.mem_append, List.mem_singleton, Prod.mk.injEq]
    refine ⟨.inl, ?_⟩
    rintro (hmem | ⟨rfl, hok⟩)
    · exact hmem
    · exact (h.ensured q).mp (hresult hok.symm)
  valid := h.valid
  space := h.space
  request := h.request

/-- **One deed.** -/
theorem Remembers.done (h : Remembers start results x.1) (link : Link σ) (c : Config) (d : Deed σ) :
    Remembers start (results ++ heard link c x d) (done link c x d).1 := by
  obtain ⟨e, s⟩ := x
  cases d with
  | elsewhere f =>
    show Remembers start (results ++ []) e
    rw [List.append_nil]
    exact h
  | call k =>
    show Remembers start (results ++ [(k.path, (e.ask link c k s).1)]) (e.ask link c k s).2.1
    by_cases hvalid : Path.isValid k.path
    · cases hensured : e.isEnsured k.path with
      | true =>
        rw [ask_of_isEnsured hvalid hensured]
        exact h.told fun _ => hensured
      | false =>
        rw [ask_of_not_isEnsured hvalid hensured]
        rcases e.work link c k s with ⟨f | ⟨⟩, s'⟩
        · exact h.told (by rintro ⟨⟩)
        · exact h.remember hvalid
    · obtain ⟨message, heq⟩ := ask_of_not_isValid (by simpa using hvalid) link c e s
      rw [heq]
      exact h.told (by rintro ⟨⟩)

/-- **Any number of deeds.** -/
theorem Remembers.after (h : Remembers start results x.1) (link : Link σ) (c : Config)
    (ds : List (Deed σ)) :
    Remembers start (results ++ Ensurer.told link c x ds) (after link c x ds).1 := by
  induction ds generalizing x results with
  | nil =>
    show Remembers start (results ++ []) x.1
    rw [List.append_nil]
    exact h
  | cons d ds ih =>
    rw [Ensurer.told, ← List.append_assoc]
    exact ih (h.done link c d)

theorem remembers_ofConfig (c : Config) (space : Namespace) :
    Remembers (ofConfig c space) [] (ofConfig c space) where
  ensured p := by simp [isEnsured, ofConfig]
  valid p hp := by simp [isEnsured, ofConfig] at hp
  space := rfl
  request := rfl

/-- **A path is ensured once.** Take an ensurer after any deeds, its own and others', from when it
was new. It has ensured the paths that some caller has been told of as ensured, and lists them once
each, in the order of their bytes. Whoever asks it again for one of these is told the same, over any
line and in any state, and the state stays as it is. Whoever asks for another path has all nodes on
the way asked for, at least once, from the top each time, and to the end if he is told of a success;
the path is remembered if he is, and if he is not the ensurer stays as it was. Whoever asks for what
is no path is told so. And no call makes a difference for another path, be it above or below. -/
theorem ensured_once (link : Link σ) (c : Config) (space : Namespace) (s : σ) (ds : List (Deed σ))
    (e : Ensurer) (results : List (String × Except Failure Unit))
    (he : (after link c (ofConfig c space, s) ds).1 = e)
    (hresults : told link c (ofConfig c space, s) ds = results) :
    (∀ p, e.isEnsured p ↔ (p, .ok ()) ∈ results) ∧
    (e.ensured.toList.Pairwise (fun p q => Text.bytes p < Text.bytes q) ∧
      e.ensured.toList.Nodup ∧ ∀ p, p ∈ e.ensured.toList ↔ (p, .ok ()) ∈ results) ∧
    ∀ k : Call,
      ((k.path, .ok ()) ∈ results →
        ∀ (τ : Type) (other : Link τ) (t : τ), e.ask other c k t = (.ok (), e, t)) ∧
      (Path.isValid k.path → (k.path, .ok ()) ∉ results → ∀ t sent,
        ∃ result t' tries, Tries (Path.lineage (space.fix k.path)) result.isOk tries ∧
          (k.isSingle → tries.length = 1) ∧
          e.ask link c k t = (result, if result.isOk then e.remember k.path else e, t') ∧
          e.ask link.recorded c k (t, sent) =
            (result, if result.isOk then e.remember k.path else e, t',
              sent ++ tries.flatten.map (ofConfig c space).request)) ∧
      (Path.isValid k.path = false → ∀ t, ∃ message,
        e.ask link c k t = (.error (.invalidArgument message), e, t)) ∧
      ∀ t q, q ≠ k.path → (e.ask link c k t).2.1.isEnsured q = e.isEnsured q := by
  have hremembers : Remembers (ofConfig c space) results e := by
    subst he hresults
    exact Remembers.after (x := (ofConfig c space, s)) (remembers_ofConfig c space) link c ds
  have hsorted := Store.pairwise_bytes_toList e.ensured
  refine ⟨hremembers.ensured, ⟨hsorted, hsorted.imp ?_, fun p => ?_⟩, fun k => ⟨?_, ?_, ?_, ?_⟩⟩
  · rintro p q hlt rfl
    exact String.lt_irrefl p (Text.bytes_lt_bytes_iff.mp hlt)
  · rw [Std.ExtTreeSet.mem_toList, ← hremembers.ensured p, isEnsured,
      Std.ExtTreeSet.contains_iff_mem]
  · intro hmem τ other t
    have hensured := (hremembers.ensured k.path).mpr hmem
    exact ask_of_isEnsured (hremembers.valid _ hensured) hensured other c t
  · intro hvalid hnot t sent
    have hensured : e.isEnsured k.path = false := by
      rw [← Bool.not_eq_true, hremembers.ensured k.path]
      exact hnot
    obtain ⟨tries, htries, hsingle, heq⟩ := exists_tries_of_work link c e k t sent
    rw [← hremembers.request]
    refine ⟨(e.work link c k t).1, (e.work link c k t).2, tries, ?_, hsingle, ?_, ?_⟩
    · rw [hremembers.space] at htries
      exact htries
    · exact ask_of_not_isEnsured hvalid hensured link c t
    · rw [ask_of_not_isEnsured hvalid hensured, heq]
  · intro hvalid t
    exact ask_of_not_isValid hvalid link c e t
  · exact fun t q hq => isEnsured_ask_of_ne hq link c e t

/-- A session may not create a node, then it may, and loses two requests on the way; the node goes
again, and the session is closed. -/
def someDeeds : List (Deed Store) :=
  [.elsewhere fun st => ((st.connect []).2.submit ⟨1, []⟩
      (.create "/a" ByteArray.empty [⟨.union .read .admin, .anyone⟩] .persistent)).2,
    .call (.ensure "/a/b"),
    .elsewhere fun st => ((st.setAcl ⟨1, []⟩ "/a" .worldOpen 0).2.failNext .connectionLoss 2),
    .call (.ensure "/a/b"),
    .elsewhere fun st => (st.submit ⟨1, []⟩ (.deleteContainer "/a/b")).2,
    .call (.ensureOnce "/a/b"),
    .elsewhere fun st => st.close ⟨1, []⟩,
    .call (.ensure "/a/"),
    .call (.ensureOnce "/c")]

theorem ensured_once_of_someDeeds :
    ∃ e, (after (Store.link ⟨1, []⟩) .trial (ofConfig .trial .whole, .initial) someDeeds).1 = e ∧
      e.ensured.toList.Pairwise (fun p q => Text.bytes p < Text.bytes q) ∧
      "/a/b" ∈ e.ensured.toList ∧ "/c" ∉ e.ensured.toList ∧
      (∀ (τ : Type) (other : Link τ) (t : τ),
        e.ask other .trial (.ensure "/a/b") t = (.ok (), e, t)) ∧
      ∃ result t' tries, Tries ["/c"] result.isOk tries ∧
        e.ask (Store.link ⟨1, []⟩).recorded .trial (.ensure "/c") (.initial, []) =
          (result, if result.isOk then e.remember "/c" else e, t',
            tries.flatten.map fun p => .createContainer p ByteArray.empty .worldOpen) := by
  have htold : ("/a/b", .ok ()) ∈
      told (Store.link ⟨1, []⟩) .trial (ofConfig .trial .whole, .initial) someDeeds := by
    decide +kernel
  have hnot : ("/c", .ok ()) ∉
      told (Store.link ⟨1, []⟩) .trial (ofConfig .trial .whole, .initial) someDeeds := by
    decide +kernel
  obtain ⟨-, ⟨hsorted, -, hlisted⟩, hcalls⟩ :=
    ensured_once (Store.link ⟨1, []⟩) .trial .whole .initial someDeeds _ _ rfl rfl
  obtain ⟨-, htries, -⟩ := hcalls (.ensure "/c")
  obtain ⟨result, t', tries, htried, -, -, hask⟩ :=
    htries (by decide +kernel) hnot .initial []
  exact ⟨_, rfl, hsorted, (hlisted _).mpr htold, fun hmem => hnot ((hlisted _).mp hmem),
    (hcalls (.ensure "/a/b")).1 htold, result, t', tries, htried, hask⟩

end Ensurer

end Coordination
