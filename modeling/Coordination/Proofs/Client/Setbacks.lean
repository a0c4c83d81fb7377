import Coordination.Proofs.Client.Building
import Coordination.Proofs.Client.Operations

/-!
# Ensuring a path in spite of faults

A fault ends an attempt to ensure a path, with the node that was asked for created or not. The next
attempt begins at the top, on a tree that the ones before it have changed, and whoever made them has
not been told of all that they did. It makes no difference: what has been gone of the way is passed
again. So under a policy that counts, with a retry for each fault, the caller is told what he would
have been told at once, and finds what he would have found.

## When faults come up

Faults that a store holds meet the next requests, one after the other. For a fault to meet a later
request it has to come up while the call is under way, and then it may be any request that it meets.
`Store.besetLink` is the line of a session on which this happens.

## Main definitions

* `Store.besetLink`: the line on which faults come up between the requests

## Main results

* `Ensurer.exists_run_of_carries`: the retry loop on a line that fails
* `Ensurer.ensure_of_faults`: a path ensured, with faults and without
-/

namespace Coordination

variable {σ : Type} {link : Link σ} {view : σ → Store} {pending : σ → List Fault} {x : σ}
  {s : Session} {e : Ensurer} {p : String} {ps : List String} {st : Store} {ds : List (List Fault)}
  {around : Surroundings} {budget n : Nat} {sleep : Duration} {l : RetryLoop} {c : Config}

/-! ## Faults that come up -/

/-- The store when some more faults have come up. -/
def Store.beset (st : Store) (fs : List Fault) : Store := { st with faults := st.faults ++ fs }

/-- **The line of a session on which faults come up** between the requests; the state says which
ones will come up before each of the requests to come. -/
def Store.besetLink (s : Session) : Link (Store × List (List Fault)) :=
  { submit := fun x r =>
      let (result, st) := (x.1.beset (x.2.head?.getD [])).submit s r
      (result, st, x.2.tail)
    multi := fun x rs =>
      let (result, st) := (x.1.beset (x.2.head?.getD [])).multi s rs
      (result, st, x.2.tail)
    exists? := fun x p => x.1.exists? s p
    isConnected := fun x => x.1.isConnected s
    lossBound := fun x => x.1.faults.length + x.2.flatten.length }

/-- This line is plain but for the faults that the store holds and those that will come up. -/
theorem Store.carries_besetLink (s : Session) :
    (Store.besetLink s).Carries s (fun x => x.1.calm 0) (fun x => x.1.faults ++ x.2.flatten) where
  submit x r hs := by
    obtain ⟨st, ds⟩ := x
    have hflatten : ds.flatten = ds.head?.getD [] ++ ds.tail.flatten := by cases ds <;> rfl
    dsimp only [besetLink]
    rw [hflatten, ← List.append_assoc]
    -- the store's own line says what comes of it once the faults have come up
    rcases (Store.carries_link s).submit (st.beset (ds.head?.getD [])) r hs with
      ⟨hresult, hview, hpending⟩ | ⟨f, hpending, hresult, hview⟩
    · exact .inl ⟨hresult, hview, congrArg (· ++ ds.tail.flatten) hpending⟩
    · exact .inr ⟨f, congrArg (· ++ ds.tail.flatten) hpending, hresult, hview⟩
  exists? x p hs hp := (Store.carries_link s).exists? x.1 p hs hp

/-! ## The loop -/

namespace Ensurer

/-- What the way down comes to on a plain line, no retry would change. -/
theorem retriesOn_of_descend {refusal : StoreError} {st₁ : Store}
    (h : e.descend s ps st = (.error refusal, st₁)) :
    (RetryPolicy.nTimes n sleep).rule.retriesOn refusal = false := by
  obtain ⟨q, code, -, rfl, happly, -⟩ := exists_refused_of_descend h
  exact Tree.isRetryable_of_apply_eq_error happly

/-- **One turn of the loop**: either it ends as the way down would on a plain line, or a fault costs
it a retry, after which the way leads to the same end as before. -/
theorem run_of_carries (hlink : link.Carries s view pending) (e : Ensurer) (ps : List String)
    (around : Surroundings) (sleep : Duration) (hx : (view x).isConnected s)
    (hcodes : ∀ f ∈ pending x, f.code.isRetryable) (hn : l.retries + (pending x).length ≤ n) :
    (∃ x', pending x' = pending x ∧ view x' = (e.descend s ps (view x)).2 ∧
      ∀ budget, RetryLoop.run (RetryPolicy.nTimes n sleep).rule around
          (fun _ => createLineage link e ps) budget l x =
        ((e.descend s ps (view x)).1.mapError .store, l, x')) ∨
    ∃ f x', pending x = f :: pending x' ∧ (view x').isConnected s ∧
      e.descend s ps (view x') = e.descend s ps (view x) ∧
      ∀ budget, RetryLoop.run (RetryPolicy.nTimes n sleep).rule around
          (fun _ => createLineage link e ps) (budget + 1) l x =
        RetryLoop.run (RetryPolicy.nTimes n sleep).rule around
          (fun _ => createLineage link e ps) budget (l.retried sleep) x' := by
  have hfares := fares_createLineage hlink e ps x hx hcodes
  rcases hattempt : createLineage link e ps x with ⟨result, x'⟩
  rw [hattempt] at hfares
  cases hfares with
  | whole hview hpending =>
    refine .inl ⟨x', hpending, hview, fun budget => ?_⟩
    rcases hplain : e.descend s ps (view x) with ⟨refusal | ⟨⟩, st₁⟩
    · rw [hplain] at hattempt
      -- it is the tree that has refused, and its refusals are final
      have hfinal : (RetryPolicy.nTimes n sleep).rule.retriesOn refusal = false :=
        retriesOn_of_descend hplain
      unfold RetryLoop.run
      simp only [hattempt, hfinal, Bool.not_false, if_true, Except.mapError]
    · rw [hplain] at hattempt
      exact RetryLoop.run_of_ok hattempt
  | @struck _ f hpending _ hconnected hagain =>
    have hretries : l.retries < n := by
      rw [hpending, List.length_cons] at hn
      omega
    have hcode : f.code.isRetryable := hcodes f (by rw [hpending]; exact List.mem_cons_self)
    exact .inr ⟨f, x', hpending, hconnected, hagain, fun budget =>
      RetryLoop.run_of_retry hattempt (RetryLoop.next?_nTimes hretries hcode)⟩

/-- **The loop comes to the end of the way** on a line that fails, with one retry for each fault
that it has met. -/
theorem exists_run_of_carries (hlink : link.Carries s view pending) (e : Ensurer)
    (ps : List String) (around : Surroundings) (sleep : Duration) (hx : (view x).isConnected s)
    (hcodes : ∀ f ∈ pending x, f.code.isRetryable) (hbudget : (pending x).length ≤ budget)
    (hn : l.retries + (pending x).length ≤ n) :
    ∃ met x', pending x = met ++ pending x' ∧ view x' = (e.descend s ps (view x)).2 ∧
      RetryLoop.run (RetryPolicy.nTimes n sleep).rule around (fun _ => createLineage link e ps)
          budget l x =
        ((e.descend s ps (view x)).1.mapError .store,
          ⟨l.retries + met.length, l.sleeps ++ List.replicate met.length sleep⟩, x') := by
  induction budget generalizing l x with
  | zero =>
    have hnone : pending x = [] := List.length_eq_zero_iff.mp (Nat.le_zero.mp hbudget)
    rcases run_of_carries hlink e ps around sleep hx hcodes hn with
      ⟨x', hpending, hview, hrun⟩ | ⟨f, x', hpending, -⟩
    · refine ⟨[], x', hpending.symm, hview, ?_⟩
      simpa using hrun 0
    · rw [hnone] at hpending
      cases hpending
  | succ budget ih =>
    rcases run_of_carries hlink e ps around sleep hx hcodes hn with
      ⟨x', hpending, hview, hrun⟩ | ⟨f, x', hpending, hconnected, hagain, hrun⟩
    · refine ⟨[], x', hpending.symm, hview, ?_⟩
      simpa using hrun (budget + 1)
    · -- one retry less, and one fault less to come
      rw [hpending, List.length_cons] at hbudget hn
      have hretried : (l.retried sleep).retries = l.retries + 1 := rfl
      obtain ⟨met, x'', hmet, hview, hrest⟩ := ih (l := l.retried sleep) hconnected
        (fun g hg => hcodes g (by rw [hpending]; exact List.mem_cons_of_mem f hg)) (by omega)
        (by omega)
      rw [hagain] at hview hrest
      refine ⟨f :: met, x'', by rw [hpending, hmet, List.cons_append], hview, ?_⟩
      rw [hrun, hrest]
      simp only [RetryLoop.retried, List.length_cons, List.replicate_succ, List.append_assoc,
        List.singleton_append, Nat.add_assoc, Nat.add_comm 1]

/-! ## Calls -/

/-- Where there is nothing to do, no line is asked for anything. -/
theorem exists_ensure_of_idle (h : Path.isValid p → e.isEnsured p) (c : Config) :
    ∃ result, ∀ (σ : Type) (link : Link σ) (x : σ), e.ensure link c p x = (result, e, [], x) := by
  cases hcheck : Path.check p with
  | error refusal =>
    refine ⟨.error (.invalidArgument refusal.message), fun σ link x => ?_⟩
    rw [ensure, ensureBy, hcheck]
  | ok =>
    have hvalid : Path.isValid p := by
      by_contra hnot
      simp [Path.check, hnot] at hcheck
    exact ⟨.ok (), fun σ link x => ensureBy_of_isEnsured hvalid (h hvalid) [] _ x⟩

/-- A path that has not been ensured, on a line that fails. -/
theorem exists_ensure_of_carries (hlink : link.Carries s view pending)
    (hpolicy : c.policy = .nTimes n sleep) (hx : (view x).isConnected s)
    (hcodes : ∀ f ∈ pending x, f.code.isRetryable) (hlength : (pending x).length ≤ n)
    (hvalid : Path.isValid p) (hnew : e.isEnsured p = false) :
    let y := e.descend s (Path.lineage (e.space.fix p)) (view x)
    ∃ met x', pending x = met ++ pending x' ∧ view x' = y.2 ∧
      e.ensure link c p x = (y.1.mapError .store, if y.1.isOk then e.remember p else e,
        List.replicate met.length sleep, x') := by
  intro y
  have hn : RetryLoop.fresh.retries + (pending x).length ≤ n := by
    simpa [RetryLoop.fresh] using hlength
  have hretries : c.retryBudget link x = n := by
    rw [Config.retryBudget, hpolicy]
    rfl
  obtain ⟨met, x', hpending, hview, hrun⟩ :=
    exists_run_of_carries hlink e (Path.lineage (e.space.fix p)) c.sleeper.surroundings sleep hx
      hcodes hlength hn
  refine ⟨met, x', hpending, hview, ?_⟩
  have hwork : c.withRetries link (fun _ => attempt link e p) x =
      (y.1.mapError .store, List.replicate met.length sleep, x') := by
    rw [Config.withRetries, hretries, hpolicy]
    exact congrArg (fun z => (z.1, z.2.1.sleeps, z.2.2)) hrun
  rw [ensure, ensureBy_of_not_isEnsured hvalid hnew, hwork]
  generalize y.1 = result
  rcases result with refusal | ⟨⟩ <;> rfl

/-- **Faults are invisible to whoever ensures a path**, if the policy has a retry for each: whatever
faults the store holds and whatever others come up between the requests, with the requests that they
meet applied or not, the caller is told what he would have been told without them, the ensurer
remembers the same, and the store is left as it would have been, but for the faults that are left
and the requests that it has counted. The caller has waited once for each fault that was met. -/
theorem ensure_of_faults (hs : st.isConnected s) (hpolicy : c.policy = .nTimes n sleep)
    (hcodes : ∀ f ∈ st.faults ++ ds.flatten, f.code.isRetryable)
    (hlength : (st.faults ++ ds.flatten).length ≤ n) (e : Ensurer) (p : String) :
    ∃ result e' met st₀ st' ds',
      e.ensure (Store.link s) c p { st with faults := [] } = (result, e', [], st₀) ∧
      e.ensure (Store.besetLink s) c p (st, ds) =
        (result, e', List.replicate met.length sleep, st', ds') ∧
      st.faults ++ ds.flatten = met ++ (st'.faults ++ ds'.flatten) ∧
      st' = { st₀ with faults := st'.faults, requests := st'.requests } := by
  by_cases hidle : Path.isValid p → e.isEnsured p
  · obtain ⟨result, hidle⟩ := exists_ensure_of_idle hidle c
    exact ⟨result, e, [], { st with faults := [] }, st, ds, hidle _ _ _, hidle _ _ _, rfl, rfl⟩
  · obtain ⟨hvalid, hnew⟩ := Classical.not_imp.mp hidle
    have hnew : e.isEnsured p = false := by simpa using hnew
    have hs₀ : (({ st with faults := [] } : Store).calm 0).isConnected s := hs
    have hs' : (st.calm 0).isConnected s := hs
    obtain ⟨met₀, st₀, hfaults₀, hcalm₀, hensure₀⟩ :=
      exists_ensure_of_carries (x := ({ st with faults := [] } : Store)) (Store.carries_link s)
        hpolicy hs₀ (by simp) (Nat.zero_le n) hvalid hnew
    obtain ⟨met, ⟨st', ds'⟩, hfaults, hcalm, hensure⟩ :=
      exists_ensure_of_carries (x := (st, ds)) (Store.carries_besetLink s) hpolicy hs' hcodes
        hlength hvalid hnew
    -- without faults there is nothing to wait for
    obtain rfl : met₀ = [] := (List.append_eq_nil_iff.mp hfaults₀.symm).1
    exact ⟨_, _, met, st₀, st', ds', hensure₀, hensure, hfaults,
      Store.eq_of_calm (hcalm.trans hcalm₀.symm)⟩

/-- A store that will lose a request. -/
def tossed : Store := grounds.beset [⟨.connectionLoss, .beforeApply⟩]

/-- Faults that meet the fourth, the eighth and the twelfth request. -/
def gusts : List (List Fault) :=
  [[], [], [], [⟨.connectionLoss, .afterApply⟩], [], [], [], [⟨.operationTimeout, .beforeApply⟩],
    [], [], [], [⟨.connectionLoss, .afterApply⟩]]

/-- Of two nodes that are missing, one is created without the ensurer being told, the other is first
lost and then created so too; and all is as if there had been no faults. -/
theorem ensure_of_faults_of_gusts :
    ∃ e' st₀ st' ds',
      guest.ensure (Store.link ⟨1, []⟩) .trial "/a/b/c" { tossed with faults := [] } =
        (.ok (), e', [], st₀) ∧
      guest.ensure (Store.besetLink ⟨1, []⟩) .trial "/a/b/c" (tossed, gusts) =
        (.ok (), e', List.replicate 4 (.ofMillis 1), st', ds') ∧
      st₀.mutations = tossed.mutations + 2 ∧
      st' = { st₀ with faults := [], requests := st'.requests } := by
  have hplain : (guest.ensure (Store.link ⟨1, []⟩) .trial "/a/b/c"
        { tossed with faults := [] }).1 = .ok () ∧
      (guest.ensure (Store.link ⟨1, []⟩) .trial "/a/b/c"
        { tossed with faults := [] }).2.2.2.mutations = tossed.mutations + 2 := by
    decide +kernel
  have hwaits : (guest.ensure (Store.besetLink ⟨1, []⟩) .trial "/a/b/c"
      (tossed, gusts)).2.2.1.length = 4 := by
    decide +kernel
  have hconnected : tossed.isConnected ⟨1, []⟩ := by decide +kernel
  have hcodes : ∀ f ∈ tossed.faults ++ gusts.flatten, f.code.isRetryable := by decide +kernel
  have hall : (tossed.faults ++ gusts.flatten).length = 4 := by decide +kernel
  obtain ⟨result, e', met, st₀, st', ds', hensure₀, hensure, hmet, hst'⟩ :=
    ensure_of_faults (c := .trial) (n := 5) hconnected rfl hcodes (by omega) guest "/a/b/c"
  rw [hensure₀] at hplain
  rw [hensure, List.length_replicate] at hwaits
  obtain ⟨rfl, hmutations⟩ := hplain
  -- all faults have been met
  rw [hmet, List.length_append, List.length_append, hwaits] at hall
  have hfaults : st'.faults = [] := List.length_eq_zero_iff.mp (by omega)
  rw [hwaits] at hensure
  rw [hfaults] at hst'
  exact ⟨e', st₀, st', ds', hensure₀, hensure, hmutations, hst'⟩

end Ensurer

end Coordination
