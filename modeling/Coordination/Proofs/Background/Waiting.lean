import Coordination.Simulation.Call

/-!
# Waiting

A caller that waits for an event lets the world do its work, and lets time pass when there is none
left. The work done in one go is bounded by `World.workBound`, and so is the number of times that
the caller lets time pass. Here a run of both kinds of steps is told from the bounds: as long as
what is left of a run stays within the bounds, waiting comes to where the run leads.

## Main definitions

* `World.Leads`: one world leads to another one by work, and by waiting when there is none

## Main results

* `World.waitUntil_of_leads`: waiting comes to where the run leads
-/

namespace Coordination

namespace World

/-- Whether one world leads to another one in so many steps, each of which is a piece of work, or
the passing of time when there is no work and what is waited for is not there. When time passes what
is left has to be within the bounds. -/
inductive Leads (reached : World → Bool) : Nat → World → World → Prop
  /-- It is there. -/
  | refl {w : World} : Leads reached 0 w w
  /-- Somebody works. -/
  | work {n : Nat} {w w' w'' : World} (hstep : w.step? = some w') (h : Leads reached n w' w'') :
      Leads reached (n + 1) w w''
  /-- Time passes. -/
  | wait {n due : Nat} {w w'' : World} (hstep : w.step? = none) (hreached : reached w = false)
      (hdue : w.nextDue? = some due) (hbound : n + 1 ≤ w.workBound)
      (h : Leads reached n { w with clock := max w.clock due } w'') : Leads reached (n + 1) w w''

variable {reached : World → Bool} {n fuel : Nat} {w w' w'' : World}

/-- A world without work is within the bounds. -/
theorem Leads.le_workBound (h : Leads reached n w w'') (hstep : w.step? = none) :
    n ≤ w.workBound := by
  cases h with
  | refl => exact Nat.zero_le _
  | work hstep' => cases hstep.symm.trans hstep'
  | wait _ _ _ hbound => exact hbound

/-- Doing all work is the first part of a run. -/
theorem settleFor_of_leads (h : Leads reached n w w'') (hfuel : n ≤ fuel)
    (hrest : w''.step? = none) :
    ∃ n' w', settleFor fuel w = w' ∧ n' ≤ n ∧ w'.step? = none ∧ Leads reached n' w' w'' := by
  have hdone {fuel : Nat} {w : World} (hstep : w.step? = none) : settleFor fuel w = w := by
    cases fuel with
    | zero => rfl
    | succ fuel => rw [settleFor, hstep]
  induction h generalizing fuel with
  | refl => exact ⟨0, _, hdone hrest, Nat.le_refl _, hrest, .refl⟩
  | work hstep h ih =>
    obtain ⟨fuel, rfl⟩ : ∃ m, fuel = m + 1 := ⟨fuel - 1, by omega⟩
    obtain ⟨n', w', hsettle, hn', hstep', hleads⟩ := ih (Nat.le_of_succ_le_succ hfuel) hrest
    exact ⟨n', w', by rw [settleFor, hstep]; exact hsettle, Nat.le_succ_of_le hn', hstep', hleads⟩
  | wait hstep hreached hdue hbound h =>
    exact ⟨_, _, hdone hstep, Nat.le_refl _, hstep, .wait hstep hreached hdue hbound h⟩

/-- Letting time pass is the rest of it. -/
theorem waitFor_of_leads (h : Leads reached n w w'') (hstep : w.step? = none) (hfuel : n ≤ fuel)
    (hrest : w''.step? = none) (hend : reached w'' ∨ w''.nextDue? = none) :
    waitFor reached fuel w = w'' := by
  -- one round of waiting does the work of several steps
  induction n using Nat.strongRecOn generalizing w fuel with
  | ind n ih =>
    cases h with
    | refl =>
      cases fuel with
      | zero => rfl
      | succ fuel =>
        rw [waitFor]
        rcases hend with hend | hend
        · rw [if_pos hend]
        · simp [hend]
    | work hstep' => cases hstep.symm.trans hstep'
    | @wait n due _ _ _ hreached hdue hbound h =>
      obtain ⟨fuel, rfl⟩ : ∃ m, fuel = m + 1 := ⟨fuel - 1, by omega⟩
      have hbound' : n ≤ ({ w with clock := max w.clock due } : World).workBound :=
        Nat.le_of_succ_le hbound
      obtain ⟨n', w', hsettle, hn', hstep', hleads⟩ := settleFor_of_leads h hbound' hrest
      rw [waitFor, hreached, if_neg Bool.false_ne_true, hdue]
      dsimp only
      rw [settle, hsettle]
      exact ih n' (by omega) hleads hstep' (by omega)

/-- **Waiting comes to where a run leads**, if the run ends where there is no work left, and either
what is waited for is there or no parked call is left to wait for. -/
theorem waitUntil_of_leads (h : Leads reached n w w'') (hbound : n ≤ w.workBound)
    (hrest : w''.step? = none) (hend : reached w'' ∨ w''.nextDue? = none) :
    w.waitUntil reached = w'' := by
  obtain ⟨n', w', hsettle, -, hstep', hleads⟩ := settleFor_of_leads h hbound hrest
  rw [waitUntil, settle, hsettle]
  exact waitFor_of_leads hleads hstep' (hleads.le_workBound hstep') hrest hend

end World

end Coordination
