import Mathlib
import Coordination.Proofs.Retry.Attempts

/-!
# The arithmetic of backoff

The waits of a backoff are multiples of a base length, cut to a longest wait. The factors are drawn
from a range that doubles with every retry, which is why retries are limited: the bound of the range
must fit into a 32-bit word. Multiples stop at the greatest length, and are the same when they are
worked out part by part, with the whole seconds carried over.

Drawn is any factor of the range and no other, so the waits that are possible are known in full, and
with them the least and the greatest. The waits of a run are drawn from one range after another,
which bounds their sum.

## Main definitions

* `Duration.timesByParts`: a multiple, worked out with a carry
* `Backoff.bound`: the bound of the factors, as a 32-bit word
* `RetryLoop.Drawn`: the waits of a loop are those that its rule has asked for

## Main results

* `Duration.timesByParts_eq`: nothing is lost in the carry
* `RetryLoop.Drawn.run`: a run waits as its rule says
* `RetryPolicy.waits_of_backoff`: when a backoff gives up, and what it waits until then
-/

namespace Coordination

/-! ## Multiples of a length -/

namespace Duration

/-- A multiple, worked out part by part: the nanoseconds first, whose whole seconds are carried over
to the seconds; the greatest length if the seconds do not fit into a 64-bit word. -/
def timesByParts (d : Duration) (k : Nat) : Duration :=
  let nanoseconds := d.subsecond * k
  let seconds := d.seconds * k + nanoseconds / perSecond
  if seconds < UInt64.size then ofParts seconds (nanoseconds % perSecond) else greatest

theorem ofNanos_of_limit_le {n : Nat} (h : limit ≤ n) : ofNanos n = greatest := by
  simp [ofNanos, greatest, h]

/-- **Nothing is lost in the carry.** -/
theorem timesByParts_eq (d : Duration) (k : Nat) : d.timesByParts k = d.times k := by
  have hparts : (d.seconds * k + d.subsecond * k / perSecond) * perSecond +
      d.subsecond * k % perSecond = d.nanos * k :=
    calc (d.seconds * k + d.subsecond * k / perSecond) * perSecond + d.subsecond * k % perSecond
        = d.seconds * k * perSecond +
            (d.subsecond * k / perSecond * perSecond + d.subsecond * k % perSecond) := by
          rw [Nat.add_mul, Nat.add_assoc]
      _ = (d.seconds * perSecond + d.subsecond) * k := by
          rw [Nat.div_add_mod', Nat.add_mul, Nat.mul_right_comm]
      _ = d.nanos * k := by rw [seconds, subsecond, Nat.div_add_mod']
  rw [timesByParts, times]
  split
  · rw [ofParts, hparts]
  · rename_i hseconds
    refine (ofNanos_of_limit_le ?_).symm
    rw [← hparts, limit]
    have := Nat.mul_le_mul_right perSecond (Nat.not_lt.mp hseconds)
    omega

theorem times_mono (d : Duration) {j k : Nat} (h : j ≤ k) :
    (d.times j).nanos ≤ (d.times k).nanos := by
  have := Nat.mul_le_mul_left d.nanos h
  simp only [times, nanos_ofNanos]
  omega

theorem times_one (d : Duration) : d.times 1 = d := by
  have := d.le_limit
  obtain ⟨nanos, h⟩ := d
  simp [times, ofNanos, h]

theorem nanos_times_le (d : Duration) (k : Nat) : (d.times k).nanos ≤ d.nanos * k :=
  Nat.min_le_left _ _

end Duration

/-! ## One wait -/

namespace Backoff

/-- The bound that factors are drawn below, as a 32-bit word. -/
def bound (retries : UInt32) : UInt32 := 1 <<< (min retries 29 + 1)

/-- The bound is shifted by less than the width of a word, so that it is the power of two it stands
for. -/
theorem toNat_bound (retries : UInt32) :
    (bound retries).toNat = 2 ^ (min retries.toNat retryLimit + 1) := by
  have hmin : (min retries 29).toNat = min retries.toNat retryLimit := by
    have hif : min retries 29 = if retries ≤ 29 then retries else 29 := rfl
    simp only [hif, retryLimit, Nat.min_def, UInt32.le_iff_toNat_le]
    exact apply_ite UInt32.toNat _ _ _
  have hle : min retries.toNat retryLimit ≤ 29 := Nat.min_le_right _ _
  have hshift : (min retries 29 + 1).toNat = min retries.toNat retryLimit + 1 := by
    rw [UInt32.toNat_add, hmin]
    exact Nat.mod_eq_of_lt (by simp; omega)
  have hpow : 2 ^ (min retries.toNat retryLimit + 1) < 2 ^ 32 :=
    Nat.pow_lt_pow_right (by decide) (by omega)
  rw [bound, UInt32.toNat_shiftLeft, hshift, Nat.mod_eq_of_lt (by omega : _ + 1 < 32),
    UInt32.toNat_one, Nat.one_shiftLeft, Nat.mod_eq_of_lt hpow]

variable {b : Backoff} {k : Nat}

theorem factors_eq (hk : k ≤ retryLimit) : factors k = 2 ^ (k + 1) - 1 := by
  rw [factors, show Nat.min k retryLimit = k from Nat.min_eq_left hk]
  rfl

theorem factors_pos (k : Nat) : 0 < factors k := by
  have : 2 ^ 1 ≤ 2 ^ (Nat.min k retryLimit + 1) := Nat.pow_le_pow_right (by decide) (by omega)
  exact Nat.sub_pos_of_lt this

/-- Rolling the die draws every factor of the range, and no other. -/
theorem exists_roll_iff {d : Duration} (hk : k ≤ retryLimit) :
    (∃ roll, b.delay k roll = d) ↔
      ∃ r, 1 ≤ r ∧ r < 2 ^ (k + 1) ∧ d = b.capped (b.base.times r) := by
  have hfactors := factors_eq hk
  have hpos := factors_pos k
  constructor
  · rintro ⟨roll, rfl⟩
    have := Nat.mod_lt roll hpos
    exact ⟨1 + roll % factors k, by omega, by omega, rfl⟩
  · rintro ⟨r, hone, hlt, rfl⟩
    refine ⟨r - 1, ?_⟩
    rw [delay, wait, Nat.mod_eq_of_lt (by omega : r - 1 < factors k),
      Nat.add_sub_cancel' hone]

theorem capped_mono {c d : Duration} (h : c.nanos ≤ d.nanos) :
    (b.capped c).nanos ≤ (b.capped d).nanos := by
  unfold capped
  split
  · exact h
  · simp only [Duration.nanos_min]
    omega

theorem nanos_capped_le (d : Duration) : (b.capped d).nanos ≤ d.nanos := by
  unfold capped
  split
  · exact Nat.le_refl _
  · rw [Duration.nanos_min]
    exact Nat.min_le_left _ _

theorem delay_bounds (hk : k ≤ retryLimit) (roll : Nat) :
    (b.capped b.base).nanos ≤ (b.delay k roll).nanos ∧
      (b.delay k roll).nanos ≤ (b.capped (b.base.times (2 ^ (k + 1) - 1))).nanos := by
  obtain ⟨r, hone, hlt, hr⟩ := (exists_roll_iff hk).mp ⟨roll, rfl⟩
  rw [hr]
  refine ⟨capped_mono ?_, capped_mono (Duration.times_mono _ (by omega))⟩
  simpa only [Duration.times_one] using Duration.times_mono b.base hone

end Backoff

/-! ## The waits of a run -/

namespace RetryLoop

/-- The waits that a loop has made are those that its rule has asked for, one for each retry, after
some error and at some time, whatever the die has shown. -/
structure Drawn (rule : RetryRule) (l : RetryLoop) : Prop where
  length_eq : l.sleeps.length = l.retries
  drawn : ∀ i (hi : i < l.sleeps.length), ∃ elapsed roll e,
    rule.delay? i elapsed roll e = some l.sleeps[i]

variable {σ α : Type} {rule : RetryRule} {l : RetryLoop}

theorem Drawn.fresh : Drawn rule fresh := ⟨rfl, fun i hi => absurd hi (Nat.not_lt_zero i)⟩

/-- A retry adds the wait that the rule has asked for. -/
theorem Drawn.retried {around : Surroundings} {e : StoreError} {w : Duration} (h : Drawn rule l)
    (hw : l.next? rule around e = some w) : Drawn rule (l.retried w) := by
  refine ⟨by simp [RetryLoop.retried, h.length_eq], fun i hi => ?_⟩
  simp only [RetryLoop.retried, List.length_append, List.length_singleton] at hi ⊢
  by_cases hlt : i < l.sleeps.length
  · rw [List.getElem_append_left hlt]
    exact h.drawn i hlt
  · obtain rfl : i = l.sleeps.length := by omega
    rw [next?, RetryRule.next?] at hw
    rw [List.getElem_concat_length rfl, h.length_eq]
    split at hw
    · exact ⟨_, _, _, hw⟩
    · cases hw

/-- **A run waits as its rule says.** -/
theorem Drawn.run (h : Drawn rule l) (around : Surroundings)
    (attempt : Nat → σ → Except StoreError α × σ) (budget : Nat) (s : σ) :
    Drawn rule (run rule around attempt budget l s).2.1 := by
  induction budget, l, s using run_induction rule around attempt with
  | ok budget l s a s' ha => rwa [run_of_ok ha]
  | ended budget l s e s' he hend =>
    obtain ⟨f, -, hrun⟩ := run_of_end he hend
    rwa [hrun]
  | retry budget l s e s' w he hnext ih =>
    rw [run_of_retry he hnext]
    exact ih (h.retried hnext)

end RetryLoop

namespace RetryPolicy

/-- A policy that waits by a backoff, with a longest wait or without. -/
inductive BacksOff (b : Backoff) : RetryPolicy → Prop where
  | exponential : BacksOff b (.exponential b)
  | bounded : BacksOff b (.bounded b)

variable {b : Backoff} {p : RetryPolicy}

theorem BacksOff.delay? (hp : BacksOff b p) (k : Nat) (elapsed : Duration) (roll : Nat)
    (e : StoreError) :
    p.rule.delay? k elapsed roll e = if k < b.retries then some (b.delay k roll) else none := by
  cases hp <;> rfl

/-- The waits of one retry after another, each at most the longest of its range, add up to at most
the sum of these. -/
theorem BacksOff.sum_le (hp : BacksOff b p) (hretries : b.retries ≤ Backoff.retryLimit)
    (ws : List Duration)
    (hws : ∀ i (hi : i < ws.length), ∃ elapsed roll e,
      p.rule.delay? i elapsed roll e = some ws[i]) :
    (ws.map Duration.nanos).sum ≤ b.base.nanos * (2 ^ (ws.length + 1) - ws.length - 2) := by
  induction ws using List.reverseRecOn with
  | nil => simp
  | append_singleton ws w ih =>
    have hsum := ih fun i hi => by
      obtain ⟨elapsed, roll, e, hw⟩ := hws i (by simp; omega)
      exact ⟨elapsed, roll, e, by rwa [List.getElem_append_left hi] at hw⟩
    obtain ⟨elapsed, roll, e, hw⟩ := hws ws.length (by simp)
    rw [List.getElem_concat_length rfl, hp.delay?] at hw
    split at hw
    · rename_i hlt
      obtain rfl := Option.some.inj hw
      have hlast : (b.delay ws.length roll).nanos ≤ b.base.nanos * (2 ^ (ws.length + 1) - 1) :=
        calc (b.delay ws.length roll).nanos
            ≤ (b.capped (b.base.times (2 ^ (ws.length + 1) - 1))).nanos :=
              (Backoff.delay_bounds (by omega) roll).2
          _ ≤ (b.base.times (2 ^ (ws.length + 1) - 1)).nanos := Backoff.nanos_capped_le _
          _ ≤ b.base.nanos * (2 ^ (ws.length + 1) - 1) := Duration.nanos_times_le _ _
      have hpow : ws.length + 1 < 2 ^ (ws.length + 1) := Nat.lt_two_pow_self
      have hadd : 2 ^ (ws.length + 1) - ws.length - 2 + (2 ^ (ws.length + 1) - 1) =
          2 ^ (ws.length + 1 + 1) - (ws.length + 1) - 2 := by
        rw [Nat.pow_succ 2 (ws.length + 1)]
        omega
      rw [List.map_append, List.sum_append, List.length_append, List.length_singleton, ← hadd,
        Nat.mul_add]
      simpa using Nat.add_le_add hsum hlast
    · cases hw

/-- **When a backoff gives up, and what it waits until then.** It gives up just when as many retries
have been made as it allows, which are never more than 29. Until then its factors are drawn below a
bound that a 32-bit word holds and that leaves some to be drawn, and it waits for the base length
times any factor below the bound, or for the longest wait if that is less; these waits are possible,
and no others. So every wait lies between those for the least and for the greatest factor, and the
waits of successive retries, as a run makes them whatever its attempts come to, add up to at most
the sum of the greatest. -/
theorem waits_of_backoff (base : Duration) (n : Nat) (cap : Option Duration)
    (hp : BacksOff (.ofRetries base n cap) p) :
    (∀ k elapsed roll e, p.rule.delay? k elapsed roll e = none ↔ min n 29 ≤ k) ∧
    (∀ k : UInt32, k.toNat < min n 29 →
      1 < Backoff.bound k ∧ (Backoff.bound k).toNat = 2 ^ (k.toNat + 1)) ∧
    (∀ k < min n 29, ∀ elapsed e d,
      (∃ roll, p.rule.delay? k elapsed roll e = some d) ↔
        ∃ r, 1 ≤ r ∧ r < 2 ^ (k + 1) ∧
          d = (Backoff.ofRetries base n cap).capped (base.times r)) ∧
    (∀ k elapsed roll e d, p.rule.delay? k elapsed roll e = some d →
      ((Backoff.ofRetries base n cap).capped base).nanos ≤ d.nanos ∧
      d.nanos ≤ ((Backoff.ofRetries base n cap).capped (base.times (2 ^ (k + 1) - 1))).nanos) ∧
    (∀ ws : List Duration, (∀ i (hi : i < ws.length), ∃ elapsed roll e,
        p.rule.delay? i elapsed roll e = some ws[i]) →
      (ws.map Duration.nanos).sum ≤ base.nanos * (2 ^ (ws.length + 1) - ws.length - 2)) ∧
    ∀ (σ α : Type) (around : Surroundings) (attempt : Nat → σ → Except StoreError α × σ)
      (budget : Nat) (s : σ),
      let l := (RetryLoop.run p.rule around attempt budget .fresh s).2.1
      l.sleeps.length = l.retries ∧ l.retries ≤ min n 29 ∧
        (l.sleeps.map Duration.nanos).sum ≤ base.nanos * (2 ^ (l.retries + 1) - l.retries - 2) := by
  have hretries : (Backoff.ofRetries base n cap).retries = min n 29 := rfl
  have hlimit : min n 29 ≤ Backoff.retryLimit := Nat.min_le_right _ _
  have hdelay := hp.delay?
  rw [hretries] at hdelay
  refine ⟨fun k elapsed roll e => ?_, fun k hk => ?_, fun k hk elapsed e d => ?_,
    fun k elapsed roll e d hd => ?_, hp.sum_le hlimit,
    fun σ α around attempt budget s => ?_⟩
  · rw [hdelay]
    split <;> simp <;> omega
  · have hbound := Backoff.toNat_bound k
    rw [Nat.min_eq_left (by omega)] at hbound
    refine ⟨UInt32.lt_iff_toNat_lt.mpr ?_, hbound⟩
    rw [hbound]
    exact Nat.one_lt_two_pow (Nat.succ_ne_zero _)
  · simp only [hdelay, if_pos hk, Option.some.injEq]
    exact Backoff.exists_roll_iff (by omega)
  · rw [hdelay] at hd
    split at hd
    · obtain rfl := Option.some.inj hd
      exact Backoff.delay_bounds (by omega) roll
    · cases hd
  · have hdrawn :
        RetryLoop.Drawn p.rule (RetryLoop.run p.rule around attempt budget .fresh s).2.1 :=
      RetryLoop.Drawn.fresh.run around attempt budget s
    generalize (RetryLoop.run p.rule around attempt budget .fresh s).2.1 = l at hdrawn
    have hsum := hp.sum_le hlimit l.sleeps hdrawn.drawn
    rw [hdrawn.length_eq] at hsum
    refine ⟨hdrawn.length_eq, ?_, hsum⟩
    -- the last wait has been drawn at a count that the policy allows
    by_contra hmore
    have hlast := hdrawn.drawn (l.retries - 1) (by rw [hdrawn.length_eq]; omega)
    obtain ⟨elapsed, roll, e, hw⟩ := hlast
    rw [hdelay, if_neg (by omega)] at hw
    cases hw

/-- A base length of which the double is too long: after one retry the next wait is the base length
or the greatest length. -/
theorem waits_of_backoff_of_long :
    let b := Backoff.ofRetries (.ofParts (Nat.pow 2 63) 600000000) 100 none
    ∀ d, (∃ roll, (exponential b).rule.delay? 1 .zero roll .closed = some d) ↔
      d = .ofParts (Nat.pow 2 63) 600000000 ∨ d = .greatest := by
  intro b d
  rw [(waits_of_backoff _ 100 none (.exponential (b := b))).2.2.1 1 (by decide) .zero .closed]
  constructor
  · rintro ⟨r, hone, hlt, rfl⟩
    obtain rfl | rfl | rfl : r = 1 ∨ r = 2 ∨ r = 3 := by omega
    · exact .inl (by decide +kernel)
    · exact .inr (by decide +kernel)
    · exact .inr (by decide +kernel)
  · rintro (rfl | rfl)
    · exact ⟨1, by decide, by decide, by decide +kernel⟩
    · exact ⟨2, by decide, by decide, by decide +kernel⟩

end RetryPolicy

end Coordination
