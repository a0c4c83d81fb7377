import Coordination.Proofs.Path.Spaces

/-!
# The way to a node

A path is reached from the root one segment at a time. The nodes on the way are the prefixes of the
path, segment by segment; `Path.lineage` lists them from the top, each below the one before it. A
namespace is everything that its root is on the way to.

## Main definitions

* `Path.Precedes`: one path is a prefix of another, segment by segment

## Main results

* `precedes_iff_mem_lineage`, `isChain_lineage`: what a lineage lists, and how it is linked
* `Precedes.comparable`: of two paths on the way to a third one leads to the other
* `Namespace.IsWellFormed.exists_fix_iff`: what a namespace reaches
* `Namespace.IsWellFormed.parent?_fix`, `name_fix`, `fix_append`: cutting and gluing in a namespace
-/

namespace Coordination

namespace Path

variable {p q r : String} {s : List Char} {ss ts : List (List Char)}

/-! ## Prefixes -/

/-- **Whether one path is a prefix of another**, segment by segment. Every path is one of itself. -/
def Precedes (p q : String) : Prop :=
  ∃ ss ts, (∀ s ∈ ss ++ ts, isSegment s) ∧ p = ofSegments ss ∧ q = ofSegments (ss ++ ts)

theorem Precedes.isValid_left (h : Precedes p q) : isValid p := by
  obtain ⟨ss, ts, hall, rfl, -⟩ := h
  exact isValid_ofSegments fun s hs => hall s (List.mem_append_left ts hs)

theorem Precedes.isValid_right (h : Precedes p q) : isValid q := by
  obtain ⟨ss, ts, hall, -, rfl⟩ := h
  exact isValid_ofSegments hall

theorem Precedes.refl (hp : isValid p) : Precedes p p := by
  obtain ⟨ss, hss, rfl⟩ := exists_segments hp
  exact ⟨ss, [], by simpa using hss, rfl, by rw [List.append_nil]⟩

theorem root_precedes (hp : isValid p) : Precedes root p := by
  obtain ⟨ss, hss, rfl⟩ := exists_segments hp
  exact ⟨[], ss, hss, rfl, rfl⟩

/-- In segments that are known, a prefix is a prefix. -/
theorem precedes_ofSegments_iff (hs : ∀ s ∈ ss, isSegment s) (ht : ∀ t ∈ ts, isSegment t) :
    Precedes (ofSegments ss) (ofSegments ts) ↔ ss <+: ts := by
  constructor
  · rintro ⟨us, vs, hall, hss, hts⟩
    obtain rfl := ofSegments_injective hs (fun u hu => hall u (List.mem_append_left vs hu)) hss
    obtain rfl := ofSegments_injective ht hall hts
    exact List.prefix_append ss vs
  · rintro ⟨vs, rfl⟩
    exact ⟨ss, vs, ht, rfl, rfl⟩

theorem Precedes.trans (h : Precedes p q) (h' : Precedes q r) : Precedes p r := by
  obtain ⟨ss, hss, rfl⟩ := exists_segments h.isValid_left
  obtain ⟨ts, hts, rfl⟩ := exists_segments h.isValid_right
  obtain ⟨us, hus, rfl⟩ := exists_segments h'.isValid_right
  rw [precedes_ofSegments_iff hss hts] at h
  rw [precedes_ofSegments_iff hts hus] at h'
  exact (precedes_ofSegments_iff hss hus).mpr (h.trans h')

theorem Precedes.antisymm (h : Precedes p q) (h' : Precedes q p) : p = q := by
  obtain ⟨ss, hss, rfl⟩ := exists_segments h.isValid_left
  obtain ⟨ts, hts, rfl⟩ := exists_segments h.isValid_right
  rw [precedes_ofSegments_iff hss hts] at h
  rw [precedes_ofSegments_iff hts hss] at h'
  rw [h.eq_of_length_le h'.length_le]

/-- **Of two paths on the way to a third one leads to the other.** -/
theorem Precedes.comparable (h : Precedes p r) (h' : Precedes q r) :
    Precedes p q ∨ Precedes q p := by
  obtain ⟨ss, hss, rfl⟩ := exists_segments h.isValid_left
  obtain ⟨ts, hts, rfl⟩ := exists_segments h'.isValid_left
  obtain ⟨us, hus, rfl⟩ := exists_segments h.isValid_right
  rw [precedes_ofSegments_iff hss hus] at h
  rw [precedes_ofSegments_iff hts hus] at h'
  rw [precedes_ofSegments_iff hss hts, precedes_ofSegments_iff hts hss]
  exact List.prefix_or_prefix_of_prefix h h'

/-- The node above is on the way. -/
theorem precedes_of_parent? (hp : isValid p) (h : parent? p = some q) : Precedes q p := by
  obtain ⟨ss, s, hss, hs, rfl⟩ := exists_concat hp (ne_root_of_parent? h)
  rw [parent?_concat ss hs, Option.some.injEq] at h
  exact ⟨ss, [s], by simpa [or_imp, forall_and] using ⟨hss, hs⟩, h.symm, rfl⟩

theorem not_precedes_of_parent? (hp : isValid p) (h : parent? p = some q) : ¬ Precedes p q := by
  intro h'
  have heq := h'.antisymm (precedes_of_parent? hp h)
  exact parent?_ne_self hp (heq ▸ h)

/-! ## Lineages -/

theorem chain_concat (ts : List (List Char)) (s : List Char) :
    chain (ts ++ [s]) = chain ts ++ '/' :: s := by
  simp

/-- The first step of a lineage, and what is left of it. -/
theorem lineageFrom_chain (ts : List (List Char)) (s : List Char) (ss : List (List Char)) :
    lineageFrom (chain ts) (s :: ss) =
      ofSegments (ts ++ [s]) :: lineageFrom (chain (ts ++ [s])) ss := by
  rw [lineageFrom, chain_concat]
  congr 1
  rw [← String.toList_inj, toList_concat, String.toList_ofList]

theorem lineage_ofSegments (hss : ∀ s ∈ ss, isSegment s) :
    lineage (ofSegments ss) = lineageFrom (chain []) ss := by
  rw [lineage]
  congr 1
  cases ss with
  | nil => decide
  | cons s ss =>
    have hpieces : pieces (ofSegments (s :: ss)).toList = [] :: s :: ss := by
      have hrest : pieces (s ++ chain ss) = s :: ss := pieces_of_chain hss
      rw [toList_ofSegments (by simp), chain_cons, List.cons_append, pieces, List.splitOn,
        List.splitOnP_cons_eq_if_modifyHead, if_pos (by simp)]
      exact congrArg ([] :: ·) hrest
    rw [hpieces, List.filter_cons_of_neg (by simp), List.filter_eq_self]
    intro t ht
    simpa using ne_nil_of_isSegment (hss t ht)

theorem length_lineageFrom (stem : List Char) (ss : List (List Char)) :
    (lineageFrom stem ss).length = ss.length := by
  induction ss generalizing stem with
  | nil => rfl
  | cons s ss ih => rw [lineageFrom, List.length_cons, List.length_cons, ih]

theorem mem_lineageFrom_iff (ts : List (List Char)) (ss : List (List Char)) :
    p ∈ lineageFrom (chain ts) ss ↔ ∃ us, us ≠ [] ∧ us <+: ss ∧ p = ofSegments (ts ++ us) := by
  induction ss generalizing ts with
  | nil => simp [lineageFrom]
  | cons s ss ih =>
    rw [lineageFrom_chain, List.mem_cons, ih]
    constructor
    · rintro (rfl | ⟨us, hne, hus, rfl⟩)
      · exact ⟨[s], by simp, by simp, rfl⟩
      · exact ⟨s :: us, by simp, by simpa using hus, by simp⟩
    · rintro ⟨us, hne, hus, rfl⟩
      -- a prefix that is not empty begins with the first segment
      obtain ⟨u, us, rfl⟩ := List.exists_cons_of_ne_nil hne
      obtain ⟨rfl, htail⟩ := List.cons_prefix_cons.mp hus
      by_cases hnil : us = []
      · exact .inl (by rw [hnil])
      · exact .inr ⟨us, hnil, htail, by simp⟩

/-- **A lineage lists what is on the way**, but for the root. -/
theorem precedes_iff_mem_lineage (hq : isValid q) :
    Precedes p q ↔ p = root ∨ p ∈ lineage q := by
  obtain ⟨ss, hss, rfl⟩ := exists_segments hq
  rw [lineage_ofSegments hss, mem_lineageFrom_iff]
  constructor
  · intro h
    obtain ⟨ts, hts, rfl⟩ := exists_segments h.isValid_left
    rw [precedes_ofSegments_iff hts hss] at h
    by_cases hnil : ts = []
    · exact .inl (by rw [hnil]; rfl)
    · exact .inr ⟨ts, hnil, h, rfl⟩
  · rintro (rfl | ⟨us, -, ⟨vs, rfl⟩, rfl⟩)
    · exact root_precedes hq
    · exact ⟨us, vs, hss, rfl, rfl⟩

theorem isValid_of_mem_lineage (hq : isValid q) (hp : p ∈ lineage q) : isValid p :=
  ((precedes_iff_mem_lineage hq).mpr (.inr hp)).isValid_left

theorem isChain_lineageFrom (ts : List (List Char)) (hss : ∀ s ∈ ss, isSegment s) :
    (ofSegments ts :: lineageFrom (chain ts) ss).IsChain fun p q => parent? q = some p := by
  induction ss generalizing ts with
  | nil => exact .singleton _
  | cons s ss ih =>
    rw [lineageFrom_chain, List.isChain_cons_cons]
    exact ⟨parent?_concat ts (hss s List.mem_cons_self),
      ih (ts ++ [s]) fun t ht => hss t (List.mem_cons_of_mem _ ht)⟩

/-- **Each node of a lineage is below the one before it**, the first one below the root. -/
theorem isChain_lineage (hp : isValid p) :
    (root :: lineage p).IsChain fun p q => parent? q = some p := by
  obtain ⟨ss, hss, rfl⟩ := exists_segments hp
  rw [lineage_ofSegments hss]
  exact isChain_lineageFrom [] hss

instance decidablePrecedes (p q : String) : Decidable (Precedes p q) :=
  if hq : isValid q then decidable_of_iff _ (precedes_iff_mem_lineage hq).symm
  else isFalse fun h => hq h.isValid_right

end Path

/-! ## Namespaces -/

namespace Namespace.IsWellFormed

open Coordination.Path

variable {n : Namespace} {p q above : String}

theorem fix_inj (hn : n.IsWellFormed) (hp : isValid p) (hq : isValid q) :
    n.fix p = n.fix q ↔ p = q := by
  constructor
  · intro h
    rw [← hn.unfix_fix hp, h, hn.unfix_fix hq]
  · rintro rfl
    rfl

/-- **A namespace reaches what its root is on the way to.** -/
theorem exists_fix_iff (hn : n.IsWellFormed) :
    (∃ p, isValid p ∧ n.fix p = q) ↔ Precedes (n.fix Path.root) q := by
  obtain ⟨rs, hrs, hfix, -⟩ := hn.exists_segments
  have hroot : n.fix Path.root = ofSegments rs := by
    have h := hfix [] (by simp)
    rwa [List.append_nil] at h
  rw [hroot]
  constructor
  · rintro ⟨p, hp, rfl⟩
    obtain ⟨ss, hss, rfl⟩ := Path.exists_segments hp
    exact ⟨rs, ss, fun t ht => (List.mem_append.mp ht).elim (hrs t) (hss t), rfl, hfix ss hss⟩
  · rintro ⟨ts, ss, hall, hts, rfl⟩
    have hss : ∀ s ∈ ss, isSegment s := fun s hs => hall s (List.mem_append_right ts hs)
    obtain rfl := ofSegments_injective hrs (fun t ht => hall t (List.mem_append_left ss ht)) hts
    exact ⟨ofSegments ss, isValid_ofSegments hss, hfix ss hss⟩

theorem precedes_fix (hn : n.IsWellFormed) (hp : isValid p) :
    Precedes (n.fix Path.root) (n.fix p) := hn.exists_fix_iff.mp ⟨p, hp, rfl⟩

theorem parent?_fix (hn : n.IsWellFormed) (hp : isValid p) (habove : parent? p = some above) :
    parent? (n.fix p) = some (n.fix above) := by
  obtain ⟨rs, hrs, hfix, -⟩ := hn.exists_segments
  obtain ⟨ss, s, hss, hs, rfl⟩ := exists_concat hp (ne_root_of_parent? habove)
  rw [parent?_concat ss hs, Option.some.injEq] at habove
  rw [hfix _ (by simpa [or_imp, forall_and] using ⟨hss, hs⟩), ← List.append_assoc,
    parent?_concat _ hs, ← habove, hfix ss hss]

theorem name_fix (hn : n.IsWellFormed) (hp : isValid p) (hr : p ≠ Path.root) :
    name (n.fix p) = name p := by
  obtain ⟨rs, hrs, hfix, -⟩ := hn.exists_segments
  obtain ⟨ss, s, hss, hs, rfl⟩ := exists_concat hp hr
  rw [hfix _ (by simpa [or_imp, forall_and] using ⟨hss, hs⟩), ← List.append_assoc,
    name_concat _ hs, name_concat _ hs]

/-- A counter at the end of a name is not moved. -/
theorem fix_append (hn : n.IsWellFormed) (hp : isValid p) (hr : p ≠ Path.root) {cs : List Char}
    (hne : cs ≠ []) (hcs : ∀ c ∈ cs, c ≠ '/' ∧ c ≠ '\x00' ∧ c ≠ '.') :
    n.fix (p ++ String.ofList cs) = n.fix p ++ String.ofList cs := by
  obtain ⟨rs, hrs, hfix, -⟩ := hn.exists_segments
  obtain ⟨ss, s, hss, hs, rfl⟩ := exists_concat hp hr
  have hlonger : isSegment (s ++ cs) := isSegment_append hs hne hcs
  rw [concat_append, hfix _ (by simpa [or_imp, forall_and] using ⟨hss, hlonger⟩),
    hfix _ (by simpa [or_imp, forall_and] using ⟨hss, hs⟩), ← List.append_assoc,
    ← List.append_assoc, concat_append]

/-- The node above the root of a namespace is out of reach. -/
theorem fix_ne_of_parent? (hn : n.IsWellFormed) (hp : isValid p)
    (habove : parent? (n.fix Path.root) = some above) : n.fix p ≠ above := by
  rintro rfl
  exact not_precedes_of_parent? (hn.isValid_fix (by decide)) habove (hn.precedes_fix hp)

end Namespace.IsWellFormed

end Coordination
