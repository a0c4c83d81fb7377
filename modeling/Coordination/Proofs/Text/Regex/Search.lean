import Coordination.Text.Regex.Basic
import Mathlib.Tactic.Common

/-!
# What a search finds

A search follows an expression from lists of positions to lists of positions. Every position that it
reaches is the end of a match, and every end of a match is reached: the rounds of a repetition that
change nothing can be left out, and no more of the others fit into a text than it has characters.

## Main definitions

* `Regex.IsBounded`: no repetition has less room than it needs
* `Regex.Rounds`: some stretches that match, one after the other

## Main results

* `Regex.mem_reach_iff`: the positions that are reached are the ends of matches
* `Regex.search_iff`: a search finds something just if something matches
-/

namespace Coordination.Text.Regex

/-- Whether no repetition has to take more rounds than it may. -/
def IsBounded : Regex → Prop
  | .empty | .literal _ | .oneOf _ | .look _ => True
  | .seq a b | .alt a b => a.IsBounded ∧ b.IsBounded
  | .repetition least most a => (∀ m ∈ most, least ≤ m) ∧ a.IsBounded
  | .group a => a.IsBounded

variable {t : Array Char} {a b r : Regex} {cs ds : List Char} {l : Look} {s : List Nat}
  {i j k n : Nat}

/-! ## Matches -/

/-- A match ends where it starts or later, and in the text. -/
theorem Matches.le (h : Matches t r i j) : i ≤ j ∧ j ≤ t.size := by
  induction h with
  | empty hi | literalNil hi | look hi _ | repetitionNil hi => exact ⟨Nat.le_refl _, hi⟩
  | literalCons hc _ ih => exact ⟨by omega, ih.2⟩
  | oneOf hc _ => exact ⟨Nat.le_succ _, (Array.getElem?_eq_some_iff.mp hc).1⟩
  | seq _ _ iha ihb => exact ⟨Nat.le_trans iha.1 ihb.1, ihb.2⟩
  | altLeft _ ih | altRight _ ih | group _ ih => exact ih
  | repetitionCons _ _ _ iha ih => exact ⟨Nat.le_trans iha.1 ih.1, ih.2⟩

theorem matches_empty_iff : Matches t .empty i j ↔ i ≤ t.size ∧ i = j := by
  constructor
  · intro h
    cases h with
    | empty hi => exact ⟨hi, rfl⟩
  · rintro ⟨hi, rfl⟩
    exact .empty hi

theorem matches_look_iff : Matches t (.look l) i j ↔ i ≤ t.size ∧ l.holdsAt t i = true ∧ i = j := by
  constructor
  · intro h
    cases h with
    | look hi hl => exact ⟨hi, hl, rfl⟩
  · rintro ⟨hi, hl, rfl⟩
    exact .look hi hl

theorem matches_seq_iff : Matches t (.seq a b) i k ↔ ∃ j, Matches t a i j ∧ Matches t b j k := by
  constructor
  · intro h
    cases h with
    | seq ha hb => exact ⟨_, ha, hb⟩
  · rintro ⟨j, ha, hb⟩
    exact .seq ha hb

theorem matches_alt_iff : Matches t (.alt a b) i j ↔ Matches t a i j ∨ Matches t b i j := by
  constructor
  · intro h
    cases h with
    | altLeft h => exact .inl h
    | altRight h => exact .inr h
  · exact fun h => h.elim .altLeft .altRight

theorem matches_group_iff : Matches t (.group a) i j ↔ Matches t a i j := by
  constructor
  · intro h
    cases h with
    | group h => exact h
  · exact .group

theorem matches_literal_nil_iff : Matches t (.literal []) i j ↔ i ≤ t.size ∧ i = j := by
  constructor
  · intro h
    cases h with
    | literalNil hi => exact ⟨hi, rfl⟩
  · rintro ⟨hi, rfl⟩
    exact .literalNil hi

theorem matches_literal_cons_iff {c : Char} :
    Matches t (.literal (c :: cs)) i j ↔ t[i]? = some c ∧ Matches t (.literal cs) (i + 1) j := by
  constructor
  · intro h
    cases h with
    | literalCons hc h => exact ⟨hc, h⟩
  · rintro ⟨hc, h⟩
    exact .literalCons hc h

/-- Characters match where a literal ends that they are. -/
theorem literalEnd?_eq_some_iff (hi : i ≤ t.size) :
    literalEnd? t cs i = some j ↔ Matches t (.literal cs) i j := by
  induction cs generalizing i with
  | nil =>
    rw [literalEnd?, matches_literal_nil_iff, Option.some.injEq]
    exact (and_iff_right hi).symm
  | cons c cs ih =>
    rw [literalEnd?, matches_literal_cons_iff]
    by_cases hc : t[i]? = some c
    · rw [if_pos (by simpa using hc), ih (Array.getElem?_eq_some_iff.mp hc).1]
      exact (and_iff_right hc).symm
    · rw [if_neg (by simpa using hc)]
      simp [hc]

/-! ## Rounds -/

/-- Some steps of a relation, one after the other. -/
def Rounds (R : Nat → Nat → Prop) : Nat → Nat → Nat → Prop
  | 0, i, k => i = k
  | n + 1, i, k => ∃ j, R i j ∧ Rounds R n j k

section

variable {R : Nat → Nat → Prop} {f : List Nat → List Nat} {found fresh here : List Nat}
  {m size : Nat}

theorem Rounds.add : Rounds R (m + n) i k ↔ ∃ j, Rounds R m i j ∧ Rounds R n j k := by
  induction m generalizing i with
  | zero => simp [Rounds]
  | succ m ih =>
    rw [Nat.succ_add, Rounds]
    simp only [ih, Rounds]
    constructor
    · rintro ⟨j, hij, l, hjl, hlk⟩
      exact ⟨l, ⟨j, hij, hjl⟩, hlk⟩
    · rintro ⟨l, ⟨j, hij, hjl⟩, hlk⟩
      exact ⟨j, hij, l, hjl, hlk⟩

theorem Rounds.le_size (hR : ∀ {i j}, R i j → j ≤ size) (hi : i ≤ size) (h : Rounds R n i k) :
    k ≤ size := by
  induction n generalizing i with
  | zero => exact h ▸ hi
  | succ n ih =>
    obtain ⟨j, hij, hjk⟩ := h
    exact ih (hR hij) hjk

/-- Rounds that go nowhere can be left out, and each of the others takes a character. -/
theorem Rounds.short (hle : ∀ {i j}, R i j → i ≤ j) (h : Rounds R n i k) :
    i ≤ k ∧ ∃ m, m ≤ k - i ∧ Rounds R m i k := by
  induction n generalizing i with
  | zero => exact ⟨Nat.le_of_eq h, 0, Nat.zero_le _, h⟩
  | succ n ih =>
    obtain ⟨j, hij, hjk⟩ := h
    obtain ⟨hle', m, hm, hrounds⟩ := ih hjk
    rcases Nat.eq_or_lt_of_le (hle hij) with rfl | hlt
    · exact ⟨hle', m, hm, hrounds⟩
    · exact ⟨by omega, m + 1, by omega, j, hij, hrounds⟩

/-- From positions that are closed but for the fresh ones, rounds lead out only by way of these. -/
theorem Rounds.mem_or_of_closed (hclosed : ∀ i ∈ found, i ∉ fresh → ∀ j, R i j → j ∈ found)
    (h : Rounds R n i k) (hi : i ∈ found) :
    k ∈ found ∨ ∃ m ≤ n, ∃ j ∈ fresh, Rounds R m j k := by
  induction n generalizing i with
  | zero => exact .inl (h ▸ hi)
  | succ n ih =>
    by_cases hfresh : i ∈ fresh
    · exact .inr ⟨n + 1, Nat.le_refl _, i, hfresh, h⟩
    · obtain ⟨j, hij, hjk⟩ := h
      refine (ih hjk (hclosed i hi hfresh j hij)).imp_right ?_
      rintro ⟨m, hm, j', hj', hrounds⟩
      exact ⟨m, Nat.le_succ_of_le hm, j', hj', hrounds⟩

/-- Rounds from a list that a round does not change lead nowhere else. -/
theorem Rounds.mem_iff_of_fixed (hfixed : ∀ j, j ∈ here ↔ ∃ i ∈ here, R i j) :
    (∃ i ∈ here, Rounds R n i k) ↔ k ∈ here := by
  induction n with
  | zero => simp [Rounds]
  | succ n ih =>
    rw [← ih]
    constructor
    · rintro ⟨i, hi, j, hij, hjk⟩
      exact ⟨j, (hfixed j).mpr ⟨i, hi, hij⟩, hjk⟩
    · rintro ⟨j, hj, hjk⟩
      obtain ⟨i, hi, hij⟩ := (hfixed j).mp hj
      exact ⟨i, hi, j, hij, hjk⟩

/-- **Iteration takes the rounds it is given**, though it stops when one of them changes nothing. -/
theorem mem_iterate_iff (hR : ∀ {i j}, R i j → j ≤ size)
    (hf : ∀ s : List Nat, (∀ i ∈ s, i ≤ size) → ∀ j, j ∈ f s ↔ ∃ i ∈ s, R i j)
    (hbound : ∀ i ∈ here, i ≤ size) :
    k ∈ iterate f m here ↔ ∃ i ∈ here, Rounds R m i k := by
  induction m generalizing here with
  | zero => simp [iterate, Rounds]
  | succ m ih =>
    rw [iterate]
    by_cases hfixed : f here = here
    · rw [if_pos (by simpa using hfixed), Rounds.mem_iff_of_fixed]
      intro j
      rw [← hf here hbound, hfixed]
    · have hnext : ∀ i ∈ f here, i ≤ size := by
        intro j hj
        obtain ⟨i, -, hij⟩ := (hf here hbound j).mp hj
        exact hR hij
      rw [if_neg (by simpa using hfixed), ih hnext]
      simp only [hf here hbound, Rounds]
      constructor
      · rintro ⟨j, ⟨i, hi, hij⟩, hjk⟩
        exact ⟨i, hi, j, hij, hjk⟩
      · rintro ⟨i, hi, j, hij, hjk⟩
        exact ⟨j, ⟨i, hi, hij⟩, hjk⟩

/-- The positions that a round reaches from the fresh ones and that are not found yet are the fresh
ones of the next round: the positions are closed again but for them. -/
theorem closed_of_next {next : List Nat}
    (hclosed : ∀ i ∈ found, i ∉ fresh → ∀ j, R i j → j ∈ found)
    (hnext : ∀ j, j ∈ next ↔ (∃ i ∈ fresh, R i j) ∧ j ∉ found) {i j : Nat} (hij : R i j)
    (hi : i ∈ found ++ next) (h : i ∈ fresh ∨ i ∉ next) : j ∈ found ++ next := by
  by_cases hfresh : i ∈ fresh
  · by_cases hfound : j ∈ found
    · exact List.mem_append_left _ hfound
    · exact List.mem_append_right _ ((hnext j).mpr ⟨⟨i, hfresh, hij⟩, hfound⟩)
  · have hfound : i ∈ found := (List.mem_append.mp hi).resolve_right (h.resolve_left hfresh)
    exact List.mem_append_left _ (hclosed i hfound hfresh j hij)

/-- What rounds reach from the fresh positions, one less reaches from the fresh ones of the next
round, unless it is found already. -/
theorem Rounds.next_iff {next : List Nat} (hfresh : ∀ i ∈ fresh, i ∈ found)
    (hclosed : ∀ i ∈ found, i ∉ fresh → ∀ j, R i j → j ∈ found)
    (hnext : ∀ j, j ∈ next ↔ (∃ i ∈ fresh, R i j) ∧ j ∉ found) :
    (k ∈ found ++ next ∨ ∃ n ≤ m, ∃ i ∈ next, Rounds R n i k) ↔
      k ∈ found ∨ ∃ n ≤ m + 1, ∃ i ∈ fresh, Rounds R n i k := by
  constructor
  · rintro (hk | ⟨n, hn, j, hj, hjk⟩)
    · refine (List.mem_append.mp hk).imp_right fun hk => ?_
      obtain ⟨⟨i, hi, hik⟩, -⟩ := (hnext k).mp hk
      exact ⟨1, by omega, i, hi, k, hik, rfl⟩
    · obtain ⟨⟨i, hi, hij⟩, -⟩ := (hnext j).mp hj
      exact .inr ⟨n + 1, by omega, i, hi, j, hij, hjk⟩
  · rintro (hk | ⟨n, hn, i, hi, hik⟩)
    · exact .inl (List.mem_append_left _ hk)
    · have hfound : i ∈ found ++ next := List.mem_append_left _ (hfresh i hi)
      cases n with
      | zero => exact .inl (hik ▸ hfound)
      | succ n =>
        -- the first round ends at a position that is found or fresh, and the others lead on from it
        obtain ⟨j, hij, hjk⟩ := hik
        have hj : j ∈ found ++ next := closed_of_next hclosed hnext hij hfound (.inl hi)
        refine (hjk.mem_or_of_closed (fun i hi hnot j hij =>
          closed_of_next hclosed hnext hij hi (.inr hnot)) hj).imp_right ?_
        rintro ⟨l, hl, j', hj', hrest⟩
        exact ⟨l, by omega, j', hj', hrest⟩

/-- **The closure finds what at most so many rounds reach** from the fresh positions, if the others
have been closed already. -/
theorem mem_closure_iff (hR : ∀ {i j}, R i j → j ≤ size)
    (hf : ∀ s : List Nat, (∀ i ∈ s, i ≤ size) → ∀ j, j ∈ f s ↔ ∃ i ∈ s, R i j)
    (hbound : ∀ i ∈ found, i ≤ size) (hfresh : ∀ i ∈ fresh, i ∈ found)
    (hclosed : ∀ i ∈ found, i ∉ fresh → ∀ j, R i j → j ∈ found) :
    k ∈ closure f m found fresh ↔ k ∈ found ∨ ∃ n ≤ m, ∃ i ∈ fresh, Rounds R n i k := by
  induction m generalizing found fresh with
  | zero =>
    simp only [closure, Nat.le_zero, exists_eq_left, Rounds, exists_eq_right]
    exact ⟨.inl, fun h => h.elim id (hfresh k)⟩
  | succ m ih =>
    have hfreshBound : ∀ i ∈ fresh, i ≤ size := fun i hi => hbound i (hfresh i hi)
    have hnext : ∀ j, j ∈ (f fresh).eraseDups.filter (!found.contains ·) ↔
        (∃ i ∈ fresh, R i j) ∧ j ∉ found := by
      intro j
      simp [List.mem_filter, List.mem_eraseDups, hf fresh hfreshBound]
    rw [closure]
    generalize hn : (f fresh).eraseDups.filter (!found.contains ·) = next at hnext ⊢
    have hrounds := Rounds.next_iff (m := m) (k := k) hfresh hclosed hnext
    by_cases hempty : next = []
    · subst hempty
      rw [← hrounds]
      simp
    · have hbound' : ∀ i ∈ found ++ next, i ≤ size := by
        intro i hi
        refine (List.mem_append.mp hi).elim (hbound i) fun hi => ?_
        obtain ⟨⟨j, -, hji⟩, -⟩ := (hnext i).mp hi
        exact hR hji
      rw [if_neg (by simpa using hempty), ih hbound' (fun i hi => List.mem_append_right _ hi)
        (fun i hi hnot j hij => closed_of_next hclosed hnext hij hi (.inr hnot)), hrounds]

end

/-- **A repetition matches some rounds**, at least as many as it has to take and at most as many as
it may. -/
theorem matches_repetition_iff {least : Nat} {most : Option Nat} (hi : i ≤ t.size) :
    Matches t (.repetition least most a) i k ↔
      ∃ n, least ≤ n ∧ (∀ m ∈ most, n ≤ m) ∧ Rounds (Matches t a) n i k := by
  constructor
  · intro h
    generalize hr : Regex.repetition least most a = r at h
    induction h generalizing least most with
    | repetitionNil =>
      cases hr
      exact ⟨0, Nat.le_refl _, fun m _ => Nat.zero_le m, rfl⟩
    | @repetitionCons a' least' i j k most' hmost hij hjk _ ih =>
      cases hr
      obtain ⟨n, hleast, hmost', hrounds⟩ := ih (hij.le.2) rfl
      refine ⟨n + 1, by omega, fun m hm => ?_, j, hij, hrounds⟩
      have hn : n ≤ m - 1 := hmost' _ (Option.mem_map_of_mem _ hm)
      have hm' : m ≠ 0 := by
        rintro rfl
        exact hmost hm
      omega
    | _ => cases hr
  · rintro ⟨n, hleast, hmost, hrounds⟩
    induction n generalizing least most i with
    | zero =>
      obtain rfl := Nat.le_zero.mp hleast
      cases hrounds
      exact .repetitionNil hi
    | succ n ih =>
      obtain ⟨j, hij, hjk⟩ := hrounds
      refine .repetitionCons ?_ hij (ih hij.le.2 (by omega) ?_ hjk)
      · rintro rfl
        exact absurd (hmost 0 rfl) (by omega)
      · intro m hm
        obtain ⟨m', hm', rfl⟩ := Option.map_eq_some_iff.mp hm
        have := hmost m' hm'
        omega

/-! ## Reaching -/

theorem mem_union_iff {xs ys : List Nat} : j ∈ union xs ys ↔ j ∈ xs ∨ j ∈ ys := by
  by_cases hj : j ∈ xs <;> simp [union, hj]

/-- The positions that a repetition reaches, given those that one round reaches. -/
theorem mem_reach_repetition_iff {least : Nat} {most : Option Nat} (hmost : ∀ m ∈ most, least ≤ m)
    (hround : ∀ s : List Nat, (∀ i ∈ s, i ≤ t.size) → ∀ j,
      j ∈ reach t a s ↔ ∃ i ∈ s, Matches t a i j) (hs : ∀ i ∈ s, i ≤ t.size) :
    j ∈ reach t (.repetition least most a) s ↔
      ∃ i ∈ s, Matches t (.repetition least most a) i j := by
  have hR : ∀ {i j}, Matches t a i j → j ≤ t.size := fun h => h.le.2
  have hhere : ∀ k, k ∈ iterate (fun s => (reach t a s).eraseDups) least s ↔
      ∃ i ∈ s, Rounds (Matches t a) least i k := fun k =>
    mem_iterate_iff hR (fun s hs j => by rw [List.mem_eraseDups, hround s hs]) hs
  rw [reach]
  generalize iterate (fun s => (reach t a s).eraseDups) least s = here at hhere ⊢
  have hbound : ∀ i ∈ here, i ≤ t.size := by
    intro k hk
    obtain ⟨i, hi, hik⟩ := (hhere k).mp hk
    exact hik.le_size hR (hs i hi)
  rw [mem_closure_iff hR hround hbound (fun i hi => hi) (fun i hi hnot => absurd hi hnot)]
  constructor
  · rintro (hj | ⟨n, hn, k, hk, hkj⟩)
    · obtain ⟨i, hi, hij⟩ := (hhere j).mp hj
      exact ⟨i, hi, (matches_repetition_iff (hs i hi)).mpr ⟨least, Nat.le_refl _, hmost, hij⟩⟩
    · obtain ⟨i, hi, hik⟩ := (hhere k).mp hk
      refine ⟨i, hi, (matches_repetition_iff (hs i hi)).mpr
        ⟨least + n, Nat.le_add_right _ _, fun m hm => ?_, Rounds.add.mpr ⟨k, hik, hkj⟩⟩⟩
      obtain rfl := Option.mem_def.mp hm
      have hleast : least ≤ m := hmost m rfl
      have hn' : n ≤ m - least := hn
      omega
  · rintro ⟨i, hi, hij⟩
    obtain ⟨n, hleast, hmost', hrounds⟩ := (matches_repetition_iff (hs i hi)).mp hij
    obtain ⟨m, rfl⟩ := Nat.exists_eq_add_of_le hleast
    obtain ⟨k, hik, hkj⟩ := Rounds.add.mp hrounds
    have hk : k ∈ here := (hhere k).mpr ⟨i, hi, hik⟩
    refine .inr ?_
    cases most with
    | some most => exact ⟨m, Nat.le_sub_of_add_le' (hmost' most rfl), k, hk, hkj⟩
    | none =>
      obtain ⟨-, m', hm', hshort⟩ := hkj.short fun h => h.le.1
      have hle : j - k ≤ t.size + 1 := by
        have := hij.le.2
        omega
      exact ⟨m', Nat.le_trans hm' hle, k, hk, hshort⟩

/-- **The positions that are reached are the ends of matches.** -/
theorem mem_reach_iff (hr : r.IsBounded) (hs : ∀ i ∈ s, i ≤ t.size) :
    j ∈ reach t r s ↔ ∃ i ∈ s, Matches t r i j := by
  induction r generalizing s j with
  | empty =>
    simp only [reach, matches_empty_iff]
    exact ⟨fun hj => ⟨j, hj, hs j hj, rfl⟩, by rintro ⟨i, hi, -, rfl⟩; exact hi⟩
  | literal cs =>
    rw [reach, List.mem_filterMap]
    exact exists_congr fun i => and_congr_right fun hi => literalEnd?_eq_some_iff (hs i hi)
  | oneOf p =>
    rw [reach, List.mem_filterMap]
    refine exists_congr fun i => and_congr_right fun _ => ?_
    constructor
    · intro h
      cases hc : t[i]? with
      | none => simp [hc] at h
      | some c =>
        simp only [hc, Option.any_some, Option.ite_none_right_eq_some, Option.some.injEq] at h
        obtain ⟨hp, rfl⟩ := h
        exact .oneOf hc hp
    · rintro ⟨hc, hp⟩
      simp [*]
  | look l =>
    simp only [reach, List.mem_filter, matches_look_iff]
    constructor
    · rintro ⟨hj, hl⟩
      exact ⟨j, hj, hs j hj, hl, rfl⟩
    · rintro ⟨i, hi, -, hl, rfl⟩
      exact ⟨hi, hl⟩
  | seq a b iha ihb =>
    have hmiddle : ∀ j ∈ reach t a s, j ≤ t.size := by
      intro j hj
      obtain ⟨i, -, hij⟩ := (iha hr.1 hs).mp hj
      exact hij.le.2
    rw [reach, ihb hr.2 hmiddle]
    simp only [iha hr.1 hs, matches_seq_iff]
    constructor
    · rintro ⟨l, ⟨i, hi, hil⟩, hlj⟩
      exact ⟨i, hi, l, hil, hlj⟩
    · rintro ⟨i, hi, l, hil, hlj⟩
      exact ⟨l, ⟨i, hi, hil⟩, hlj⟩
  | alt a b iha ihb =>
    rw [reach, mem_union_iff, iha hr.1 hs, ihb hr.2 hs]
    simp only [matches_alt_iff, and_or_left, exists_or]
  | group a ih =>
    rw [reach, ih hr hs]
    simp only [matches_group_iff]
  | repetition least most a ih =>
    exact mem_reach_repetition_iff hr.1 (fun s hs j => ih hr.2 hs) hs

/-- **A search finds something just if some stretch of the text matches.** -/
theorem search_iff (hr : r.IsBounded) (text : String) :
    r.search text = true ↔ ∃ i j, Matches text.toList.toArray r i j := by
  have hreach : ∀ j, j ∈ reach text.toList.toArray r (List.range (text.toList.toArray.size + 1)) ↔
      ∃ i ∈ List.range (text.toList.toArray.size + 1), Matches text.toList.toArray r i j :=
    fun j => mem_reach_iff hr fun i hi => Nat.le_of_lt_succ (List.mem_range.mp hi)
  rw [search, Bool.not_eq_true', List.isEmpty_eq_false_iff_exists_mem]
  simp only [hreach]
  constructor
  · rintro ⟨j, i, -, hij⟩
    exact ⟨i, j, hij⟩
  · rintro ⟨i, j, hij⟩
    exact ⟨j, i, List.mem_range.mpr (Nat.lt_succ_of_le (Nat.le_trans hij.le.1 hij.le.2)), hij⟩

end Coordination.Text.Regex
