import Coordination.Proofs.Background.Interleaving

/-!
# The schedule is an interleaving

What a world does in the order of its schedule is one of the things that it may do, as long as the
policies ask for delays that lead to instants; and when the schedule finds nothing to do, there is
nothing to do in any order.

## Main definitions

* `World.IsTimely`: the delays that the policies ask for lead to instants
* `World.settleMarks`: what the schedule marks

## Main results

* `World.steps_settleFor`: the schedule is an interleaving
* `World.isAtRest_of_step?_eq_none`: where the schedule ends nobody has anything left to do
-/

namespace Coordination

/-- Whether a processor has to wait does not depend on the delays. -/
theorem Processor.step?_eq_none_iff {p : Processor} {now : Nat}
    (delay? delay'? : Job → StoreReply → Option Duration) :
    p.step? delay? now = none ↔ p.step? delay'? now = none := by
  unfold step?
  cases p.phase with
  | running =>
    cases p.dueNow? now with
    | none => cases p.queue <;> simp
    | some x => simp
  | draining => cases p.queue <;> simp
  | stopped | dead => simp

namespace World

variable {w w' : World} {k n : Nat} {m : Member}

/-- Whether the delays that the policies ask for lead to instants. -/
def IsTimely (w : World) : Prop :=
  ∀ (k : Nat) (m : Member), w.members[k]? = some m → ∀ j reply d,
    Job.delay? m.client.config.policy.rule w.die w.clock j reply = some d →
      w.clock + d.nanos < Processor.instantLimit

/-- What is marked by the next step of a client's processor. -/
def processorMarks (w : World) (k : Nat) : List Mark :=
  match w.members[k]? with
  | none => []
  | some m =>
    match m.processor.step? (Job.delay? m.client.config.policy.rule w.die w.clock) w.clock with
    | none => []
    | some (a, processor) => (w.updateMember k fun m => { m with processor }).marks k a

/-- What is marked by the next piece of work. -/
def stepMarks (w : World) : List Mark :=
  match (List.range w.members.length).find? fun k => (w.stepProcessor? k).isSome with
  | none => []
  | some k => w.processorMarks k

/-- What is marked by so many pieces of work. -/
def settleMarks : Nat → World → List Mark
  | 0, _ => []
  | n + 1, w =>
    match w.step? with
    | none => []
    | some w' => w.stepMarks ++ settleMarks n w'

theorem progress_of_stepProcessor? (hw : w.IsTimely) (h : w.stepProcessor? k = some w') :
    w.Progress (w.processorMarks k) w' := by
  unfold stepProcessor? at h
  unfold processorMarks
  cases hm : w.members[k]? with
  | none =>
    rw [hm] at h
    cases h
  | some m =>
    rw [hm] at h
    dsimp only at h ⊢
    cases hstep : m.processor.step? (Job.delay? m.client.config.policy.rule w.die w.clock)
        w.clock with
    | none =>
      rw [hstep] at h
      cases h
    | some y =>
      obtain ⟨a, processor⟩ := y
      rw [hstep] at h
      cases h
      exact .process hm (hw k m hm) hstep

theorem findSome?_eq_find? {α β : Type} (f : α → Option β) (as : List α) :
    as.findSome? f = (as.find? fun a => (f a).isSome).bind f := by
  induction as with
  | nil => rfl
  | cons a as ih =>
    cases ha : f a with
    | none => simp only [List.findSome?_cons, List.find?_cons, ha, Option.isSome_none, ih]
    | some b => simp [ha]

/-- The next piece of work is one that may be done, if that of a processor is. -/
theorem progress_of_step?_of
    (hw : ∀ k, w.stepProcessor? k = some w' → w.Progress (w.processorMarks k) w')
    (h : w.step? = some w') : w.Progress w.stepMarks w' := by
  unfold step? at h
  unfold stepMarks
  rw [findSome?_eq_find?] at h
  split
  · rename_i hfind
    rw [hfind] at h
    dsimp only [Option.bind_none] at h
    split at h
    · rename_i hreply
      cases h
      unfold stepReply? at hreply
      split at hreply
      · cases hreply
      · rename_i r rest hincoming
        cases hreply
        have hfirst : w.incoming = [] ++ r :: rest := hincoming
        exact .receive hfirst
    · obtain ⟨i, -, hi⟩ := List.exists_of_findSome?_eq_some h
      exact .deliver hi
  · rename_i k hfind
    rw [hfind] at h
    dsimp only [Option.bind_some] at h
    split at h
    · rename_i hstep
      cases h
      exact hw k hstep
    · rename_i hstep
      have hsome := List.find?_some hfind
      rw [hstep] at hsome
      cases hsome

theorem progress_of_step? (hw : w.IsTimely) (h : w.step? = some w') :
    w.Progress w.stepMarks w' :=
  progress_of_step?_of (fun _ => progress_of_stepProcessor? hw) h

/-- One more piece of work is the next one. -/
theorem settleFor_succ {n : Nat} (h : (settleFor n w).step? = some w') :
    settleFor (n + 1) w = w' := by
  induction n generalizing w with
  | zero =>
    simp only [settleFor] at h ⊢
    rw [h]
  | succ n ih =>
    unfold settleFor at h ⊢
    cases hw : w.step? with
    | none =>
      rw [hw] at h
      cases hw.symm.trans h
    | some w₁ =>
      rw [hw] at h
      exact ih h

/-- What holds of doing nothing, and of a piece of work together with what comes after it, holds of
the schedule. -/
theorem settleFor_induction {R : World → List Mark → World → Prop} (n : Nat) (w : World)
    (hrefl : ∀ i ≤ n, R (settleFor i w) [] (settleFor i w))
    (hstep : ∀ i < n, ∀ w' marks w'', (settleFor i w).step? = some w' → R w' marks w'' →
      R (settleFor i w) ((settleFor i w).stepMarks ++ marks) w'') :
    R w (settleMarks n w) (settleFor n w) := by
  induction n generalizing w with
  | zero => exact hrefl 0 (Nat.le_refl 0)
  | succ n ih =>
    unfold settleMarks settleFor
    cases hw : w.step? with
    | none => exact hrefl 0 (Nat.zero_le _)
    | some w' =>
      have hlater (i : Nat) : settleFor (i + 1) w = settleFor i w' := by rw [settleFor, hw]
      refine hstep 0 (Nat.succ_pos n) w' _ _ hw (ih w' (fun i hi => ?_) fun i hi => ?_)
      · exact hlater i ▸ hrefl (i + 1) (Nat.succ_le_succ hi)
      · exact hlater i ▸ hstep (i + 1) (Nat.succ_lt_succ hi)

/-- **The schedule is an interleaving.** -/
theorem steps_settleFor (n : Nat) (w : World) (h : ∀ i < n, (settleFor i w).IsTimely) :
    w.Steps (settleMarks n w) (settleFor n w) := by
  refine settleFor_induction n w (fun i _ => .refl) fun i hi w' marks w'' hstep hrest => ?_
  exact (Steps.refl.tail (.progress (progress_of_step? (h i hi) hstep))).trans hrest

/-- A processor that has nothing to do has nothing to do whatever the delays are. -/
theorem step?_eq_none_of_stepProcessor? {k : Nat} {m : Member} (hm : w.members[k]? = some m)
    (h : w.stepProcessor? k = none) (delay? : Job → StoreReply → Option Duration) :
    m.processor.step? delay? w.clock = none := by
  rw [Processor.step?_eq_none_iff _ (Job.delay? m.client.config.policy.rule w.die w.clock)]
  simp only [stepProcessor?, hm] at h
  split at h
  · assumption
  · cases h

/-- Where the schedule ends nobody has anything left to do, unless a reply is held back. -/
theorem isAtRest_of_step?_eq_none (h : w.step? = none) (hheld : ∀ m ∈ w.members, m.held = []) :
    w.IsAtRest := by
  unfold step? at h
  split at h
  · cases h
  · rename_i hprocessors
    split at h
    · cases h
    · rename_i hreply
      have hwaits {k : Nat} {m : Member} (hm : w.members[k]? = some m)
          (delay? : Job → StoreReply → Option Duration) :
          m.processor.step? delay? w.clock = none := by
        have hk : k < w.members.length := (List.getElem?_eq_some_iff.mp hm).1
        exact step?_eq_none_of_stepProcessor? hm
          (List.findSome?_eq_none_iff.mp hprocessors k (List.mem_range.mpr hk)) delay?
      intro marks w' hprogress
      cases hprogress with
      | process hm _ hstep =>
        rw [hwaits hm] at hstep
        cases hstep
      | clear hm hphase hqueue hid =>
        -- while calls are parked, a processor that clears up has one to finish
        have hnone := hwaits hm fun _ _ => none
        simp only [Processor.step?, hphase, hqueue] at hnone
        split at hnone <;> cases hnone
      | receive hincoming =>
        unfold stepReply? at hreply
        split at hreply
        · rename_i hnil
          rw [hnil] at hincoming
          exact absurd hincoming.symm (by simp)
        · cases hreply
      | @release k hreleased =>
        unfold release at hreleased
        split at hreleased
        · rename_i hheld'
          obtain ⟨m, hm, hm'⟩ := Option.map_eq_some_iff.mp hheld'
          rw [hheld m (List.mem_of_getElem? hm)] at hm'
          cases hm'
        · cases hreleased
      | @deliver i w' hworker =>
        have hi : i < w.workers.length := by
          by_contra hi
          simp [stepWorker?, hi] at hworker
        have hnone := List.findSome?_eq_none_iff.mp h i (List.mem_range.mpr hi)
        rw [hworker] at hnone
        cases hnone

/-- Policies are timely whose delays lead to instants, whatever they are told. -/
theorem isTimely_of_delay? (h : ∀ m ∈ w.members, ∀ retries elapsed roll d,
      m.client.config.policy.delay? retries elapsed roll = some d →
        w.clock + d.nanos < Processor.instantLimit) : w.IsTimely := by
  intro k m hm j reply d hd
  unfold Job.delay? RetryRule.next? at hd
  split at hd
  · cases hd
  · split at hd
    · exact h m (List.mem_of_getElem? hm) _ _ _ d hd
    · cases hd

/-- Policies with one delay are timely as long as the clock is. -/
theorem isTimely_of_nTimes {sleep : Duration}
    (h : ∀ m ∈ w.members, m.client.config.policy = .nTimes n sleep)
    (hclock : w.clock + sleep.nanos < Processor.instantLimit) : w.IsTimely := by
  refine isTimely_of_delay? fun m hm retries elapsed roll d hd => ?_
  rw [h m hm] at hd
  obtain ⟨-, rfl⟩ : retries < n ∧ sleep = d := by simpa [RetryPolicy.delay?] using hd
  exact hclock

/-- The schedule is an interleaving where the policies ask for one delay, as long as the clock is
timely. -/
theorem steps_settleFor_of_nTimes (n : Nat) (w : World) (count : Nat) (sleep : Duration)
    (h : ∀ i < n, (∀ m ∈ (settleFor i w).members, m.client.config.policy = .nTimes count sleep) ∧
      (settleFor i w).clock + sleep.nanos < Processor.instantLimit) :
    w.Steps (settleMarks n w) (settleFor n w) := by
  refine steps_settleFor n w fun i hi => ?_
  obtain ⟨hpolicies, hclock⟩ := h i hi
  exact isTimely_of_nTimes hpolicies hclock

end World

end Coordination
