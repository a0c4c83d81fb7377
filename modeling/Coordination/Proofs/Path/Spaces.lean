import Mathlib.Data.List.Basic
import Coordination.Namespace
import Coordination.Proofs.Path.Segments

/-!
# Namespaces and segments

A namespace puts the segments of its root before those of a path, and takes them off again. On
paths that is all there is to it, also for the namespace that has no root, which puts none; so what
is moved into a namespace comes out of it as it was, even if the store has written a counter behind
its last segment meanwhile.

## Main definitions

* `Namespace.IsWellFormed`: the root is a path

## Main results

* `Namespace.IsWellFormed.exists_segments`: moving paths is putting segments before them
* `Namespace.IsWellFormed.unfix_fix`, `Namespace.IsWellFormed.unfix_fix_append`: what is moved in
  comes out again
-/

namespace Coordination

namespace Path

variable {s : List Char} {rs ss : List (List Char)}

theorem head?_ne_slash (hs : isSegment s) (cs : List (List Char)) :
    (s ++ chain cs).head? ≠ some '/' := by
  intro h
  rw [List.head?_append_of_ne_nil _ (ne_nil_of_isSegment hs)] at h
  exact slash_notMem_of_isSegment hs (List.mem_of_head? h)

theorem trimLeft_chain (hs : isSegment s) (ss : List (List Char)) :
    trimLeft (chain (s :: ss)) = s ++ chain ss := by
  rw [chain_cons, trimLeft, List.cons_append, List.dropWhile_cons_of_pos (by decide)]
  exact dropWhile_slash (head?_ne_slash hs ss)

/-- **Gluing two paths puts their segments together.** -/
theorem join_append (hrs : ∀ t ∈ rs, isSegment t) (hss : ∀ t ∈ ss, isSegment t) (hne : ss ≠ []) :
    join (ofSegments rs) (ofSegments ss) = ofSegments (rs ++ ss) := by
  obtain ⟨s, ss, rfl⟩ := List.exists_cons_of_ne_nil hne
  have hs : isSegment s := hss s List.mem_cons_self
  rw [← String.toList_inj, toList_ofSegments (by simp), join, toList_ofSegments hne,
    trimLeft_chain hs]
  rcases List.eq_nil_or_concat rs with rfl | ⟨rs, r, rfl⟩
  · simp
  · rw [List.concat_eq_append] at hrs ⊢
    have hr : isSegment r := hrs r (by simp)
    have htext : ofSegments (rs ++ [r]) ≠ "" := by
      rw [ne_eq, ← String.toList_inj, toList_concat]
      simp
    rw [if_neg (by simp [concat_ne_root hr, htext]), if_neg (by simp [ne_nil_of_isSegment hs]),
      toList_concat, trimRight_concat _ hr]
    simp

end Path

namespace Namespace

open Coordination.Path

variable {n : Namespace} {p : String} {rs ss : List (List Char)}

/-- Whether the root of a namespace is a path. -/
def IsWellFormed (n : Namespace) : Prop := ∀ root, n.root = some root → isValid root

theorem fix_ofSegments (hrs : ∀ t ∈ rs, isSegment t) (hss : ∀ t ∈ ss, isSegment t) :
    (⟨some (ofSegments rs)⟩ : Namespace).fix (ofSegments ss) = ofSegments (rs ++ ss) := by
  rcases List.eq_nil_or_concat ss with rfl | ⟨ss, s, rfl⟩
  · rw [List.append_nil]
    rfl
  · rw [List.concat_eq_append] at hss ⊢
    have hs : isSegment s := hss s (by simp)
    dsimp only [fix]
    rw [if_neg (concat_ne_root hs), join_append hrs hss (by simp)]

theorem unfix_ofSegments (hrs : ∀ t ∈ rs, isSegment t) (hss : ∀ t ∈ ss, isSegment t) :
    (⟨some (ofSegments rs)⟩ : Namespace).unfix (ofSegments (rs ++ ss)) = ofSegments ss := by
  rcases ss with _ | ⟨s, ss⟩
  · rw [List.append_nil]
    exact if_pos rfl
  · have hs : isSegment s := hss s List.mem_cons_self
    have hall : ∀ t ∈ rs ++ s :: ss, isSegment t := by
      intro t ht
      exact (List.mem_append.mp ht).elim (hrs t) (hss t)
    have hbelow : ofSegments (rs ++ s :: ss) ≠ ofSegments rs := by
      intro h
      simpa using ofSegments_injective hall hrs h
    dsimp only [unfix]
    rw [if_neg hbelow]
    by_cases hnil : rs = []
    · -- the root of the store stands before every path without being cut off
      subst hnil
      split
      · rename_i below hcut
        have hrest : s ++ chain ss = '/' :: below := by
          rw [List.isPrefixOf?_eq_some_iff_append_eq] at hcut
          have hchars : '/' :: '/' :: below = '/' :: (s ++ chain ss) :=
            hcut.trans (toList_ofSegments (by simp))
          exact (List.cons.inj hchars).2.symm
        exact absurd (congrArg List.head? hrest) (head?_ne_slash hs ss)
      · rfl
    · have hcut : (ofSegments rs).toList.isPrefixOf? (ofSegments (rs ++ s :: ss)).toList =
          some ('/' :: (s ++ chain ss)) := by
        rw [List.isPrefixOf?_eq_some_iff_append_eq, toList_ofSegments hnil,
          toList_ofSegments (by simp), chain_append]
        rfl
      rw [hcut, ← String.toList_inj, toList_ofSegments (by simp)]
      exact String.toList_ofList

namespace IsWellFormed

/-- **Moving a path is putting the segments of the root before it.** -/
theorem exists_segments (hn : n.IsWellFormed) :
    ∃ rs, (∀ t ∈ rs, isSegment t) ∧
      (∀ ss, (∀ t ∈ ss, isSegment t) → n.fix (ofSegments ss) = ofSegments (rs ++ ss)) ∧
      ∀ ss, (∀ t ∈ ss, isSegment t) → n.unfix (ofSegments (rs ++ ss)) = ofSegments ss := by
  obtain ⟨_ | root⟩ := n
  · exact ⟨[], by simp, fun _ _ => rfl, fun _ _ => rfl⟩
  · obtain ⟨rs, hrs, rfl⟩ := Path.exists_segments (hn root rfl)
    exact ⟨rs, hrs, fun ss hss => fix_ofSegments hrs hss, fun ss hss => unfix_ofSegments hrs hss⟩

theorem isValid_fix (hn : n.IsWellFormed) (hp : isValid p) : isValid (n.fix p) := by
  obtain ⟨rs, hrs, hfix, -⟩ := hn.exists_segments
  obtain ⟨ss, hss, rfl⟩ := Path.exists_segments hp
  rw [hfix ss hss]
  exact isValid_ofSegments fun t ht => (List.mem_append.mp ht).elim (hrs t) (hss t)

/-- **What is moved into a namespace comes out of it as it was.** -/
theorem unfix_fix (hn : n.IsWellFormed) (hp : isValid p) : n.unfix (n.fix p) = p := by
  obtain ⟨rs, -, hfix, hunfix⟩ := hn.exists_segments
  obtain ⟨ss, hss, rfl⟩ := Path.exists_segments hp
  rw [hfix ss hss, hunfix ss hss]

/-- **A counter behind the name stays where it is**, unless there is no name. -/
theorem unfix_fix_append (hn : n.IsWellFormed) (hp : isValid p) (hr : p ≠ Path.root)
    {cs : List Char}
    (hne : cs ≠ []) (hcs : ∀ c ∈ cs, c ≠ '/' ∧ c ≠ '\x00' ∧ c ≠ '.') :
    n.unfix (n.fix p ++ String.ofList cs) = p ++ String.ofList cs := by
  obtain ⟨rs, -, hfix, hunfix⟩ := hn.exists_segments
  obtain ⟨ss, s, hss, hs, rfl⟩ := exists_concat hp hr
  have hname : ∀ t ∈ ss ++ [s ++ cs], isSegment t := by
    simpa [or_imp, forall_and] using ⟨hss, isSegment_append hs hne hcs⟩
  have hpath : ∀ t ∈ ss ++ [s], isSegment t := by
    simpa [or_imp, forall_and] using ⟨hss, hs⟩
  rw [hfix _ hpath, ← List.append_assoc, concat_append, concat_append, List.append_assoc,
    hunfix _ hname]

end IsWellFormed

end Namespace

end Coordination
