import Coordination.Proofs.Path.Lineage
import Coordination.Store.Answer
import Mathlib.Data.List.Induction
import Mathlib.Logic.Relation

/-!
# The grammar of paths

Which texts are paths, and what the operations on paths make of them. A text is examined by tests in
turn, some of the whole of it and some of its pieces, and the first test that fails ends the
examination. What passes is the root, or one segment after another with a slash before each.

Cutting at the last slash and gluing undo each other, and the lineage of a node is the way that its
parents go, read from the top.

## Main definitions

* `Path.examine`: the tests in turn
* `Path.Above`: a path is reached from another by going from parent to parent

## Main results

* `check_eq_examine`: the tests are those of the grammar
* `check_follows_grammar`: the texts that pass
* `above_iff_precedes`: parents lead to what a path begins with
* `cut_and_glued`: what cutting, gluing and lineages make of paths
-/

namespace Coordination

namespace Path

variable {p q c : String} {cs s : List Char} {ss : List (List Char)}

/-! ## Pieces -/

/-- A slash before each of its pieces gives a text back, with a slash before it. -/
theorem chain_pieces (cs : List Char) : chain (pieces cs) = '/' :: cs := by
  have hne : pieces cs ≠ [] := List.splitOn_ne_nil _ _
  rw [← slash_intercalate hne, pieces, List.intercalate_splitOn]

/-- All characters but slashes are in the pieces. -/
theorem mem_iff_exists_pieces {c : Char} (hc : c ≠ '/') : c ∈ cs ↔ ∃ s ∈ pieces cs, c ∈ s := by
  have hchain : c ∈ '/' :: cs ↔ c ∈ chain (pieces cs) := by rw [chain_pieces]
  simpa [chain, hc] using hchain

/-- No slash is in the pieces. -/
theorem slash_notMem_of_mem_pieces (hs : s ∈ pieces cs) : '/' ∉ s := by
  induction cs generalizing s with
  | nil =>
    obtain rfl : s = [] := by simpa [pieces] using hs
    simp
  | cons c cs ih =>
    rw [pieces, List.splitOn_cons_eq_if_modifyHead] at hs
    split at hs
    · rcases List.mem_cons.mp hs with rfl | hs
      · simp
      · exact ih hs
    · rename_i hc
      obtain ⟨t, ts, hts⟩ := List.exists_cons_of_ne_nil (List.splitOn_ne_nil '/' cs)
      rw [hts, List.modifyHead_cons, List.mem_cons] at hs
      rcases hs with rfl | hs
      · have ht : '/' ∉ t := ih (by rw [pieces, hts]; exact List.mem_cons_self)
        simp only [List.mem_cons, not_or]
        exact ⟨fun h => hc (by simp [← h]), ht⟩
      · exact ih (by rw [pieces, hts]; exact List.mem_cons_of_mem t hs)

/-- A text that ends with a slash has an empty piece. -/
theorem nil_mem_pieces (h : cs.getLast? = some '/') : [] ∈ pieces cs := by
  obtain ⟨front, rfl⟩ := List.getLast?_eq_some_iff.mp h
  rw [pieces, List.splitOn_append_cons_self]
  exact List.mem_append_right _ (by simp)

/-! ## The tests -/

/-- Whether a segment is empty, or stands for a node itself or for its parent. -/
def isStray (s : List Char) : Bool := s.isEmpty || s == ['.'] || s == ['.', '.']

/-- Looks at segments one by one. -/
def examineSegments (malformed : StoreError) : List (List Char) → Except StoreError Unit
  | [] => .ok ()
  | s :: ss => if isStray s then .error malformed else examineSegments malformed ss

/-- **Examines a text**: it has to begin with a slash, then the root is accepted at once, then it
must not end with a slash or have a NUL in it, and then its segments are looked at one by one. -/
def examine (p : String) : Except StoreError Unit :=
  let malformed := StoreError.refused .badArguments (some p)
  if p.toList.head? ≠ some '/' then .error malformed
  else if p = root then .ok ()
  else if p.toList.getLast? = some '/' ∨ '\x00' ∈ p.toList then .error malformed
  else examineSegments malformed (pieces p.toList.tail)

/-- Segments pass if each of them does. -/
theorem examineSegments_eq (malformed : StoreError) (ss : List (List Char)) :
    examineSegments malformed ss = if ss.any isStray then .error malformed else .ok () := by
  induction ss with
  | nil => rfl
  | cons s ss ih =>
    rw [examineSegments, ih, List.any_cons]
    cases isStray s <;> rfl

/-- **The tests of the whole text are about its segments, too.** -/
theorem isValidChars_iff (cs : List Char) :
    isValidChars cs ↔ cs.head? = some '/' ∧
      (cs = ['/'] ∨ ¬(cs.getLast? = some '/' ∨ '\x00' ∈ cs) ∧ ¬(pieces cs.tail).any isStray) := by
  match cs with
  | [] => simp [isValidChars]
  | c :: rest =>
    by_cases hc : c = '/'
    · subst hc
      by_cases hrest : rest = []
      · simp [hrest, isValidChars]
      · have hlast : ('/' :: rest).getLast? = rest.getLast? := by
          rw [List.getLast?_cons_of_ne_nil hrest]
        have hnul : '\x00' ∈ '/' :: rest ↔ ∃ s ∈ pieces rest, '\x00' ∈ s := by
          rw [← mem_iff_exists_pieces (by decide)]
          simp
        rw [hlast, hnul]
        simp only [isValidChars, hrest, isSegment_iff, isStray, List.isEmpty_iff, List.head?_cons,
          List.tail_cons, List.all_eq_true, List.any_eq_true, Bool.or_eq_true, beq_iff_eq,
          List.cons.injEq, true_and, false_or, not_or, not_exists, not_and, and_false]
        constructor
        · intro h
          refine ⟨⟨fun hslash => (h [] (nil_mem_pieces hslash)).1 rfl,
            fun s hs => (h s hs).2.2.1⟩, fun s hs => ?_⟩
          exact ⟨⟨(h s hs).1, (h s hs).2.2.2.1⟩, (h s hs).2.2.2.2⟩
        · rintro ⟨⟨-, hnone⟩, h⟩ s hs
          exact ⟨(h s hs).1.1, slash_notMem_of_mem_pieces hs, hnone s hs, (h s hs).1.2, (h s hs).2⟩
    · have hinvalid : isValidChars (c :: rest) = false := by
        unfold isValidChars
        split
        · rename_i heq
          exact absurd (List.cons.inj heq).1 hc
        · rfl
      simp [hinvalid, hc]

/-- **The tests in turn are those of the grammar.** -/
theorem check_eq_examine (p : String) : check p = examine p := by
  have hroot : p = root ↔ p.toList = ['/'] := by
    rw [← String.toList_inj]
    rfl
  have hvalid := isValidChars_iff p.toList
  rw [← isValid, ← hroot] at hvalid
  unfold check examine
  dsimp only
  rw [examineSegments_eq]
  by_cases hhead : p.toList.head? = some '/'
  · by_cases hp : p = root
    · rw [if_pos (hvalid.mpr ⟨hhead, .inl hp⟩), if_neg (not_not_intro hhead), if_pos hp]
    · rw [if_neg (not_not_intro hhead), if_neg hp]
      by_cases hwhole : p.toList.getLast? = some '/' ∨ '\x00' ∈ p.toList
      · rw [if_pos hwhole, if_neg]
        exact fun h => ((hvalid.mp h).2.resolve_left hp).1 hwhole
      · rw [if_neg hwhole]
        by_cases hodd : (pieces p.toList.tail).any isStray
        · rw [if_pos hodd, if_neg]
          exact fun h => ((hvalid.mp h).2.resolve_left hp).2 hodd
        · rw [if_neg hodd, if_pos (hvalid.mpr ⟨hhead, .inr ⟨hwhole, hodd⟩⟩)]
  · rw [if_pos hhead, if_neg fun h => hhead (hvalid.mp h).1]

/-- **The texts that pass.** A text is accepted just if it is the root or one segment after another
with a slash before each, where a segment is not empty, has neither a slash nor a NUL in it, and
stands neither for a node itself nor for its parent. Every other text is refused as a bad argument,
which it is given along with, whichever of the tests it fails. -/
theorem check_follows_grammar (p : String) :
    (check p = .ok () ↔ p = "/" ∨ ∃ ss : List (List Char), ss ≠ [] ∧
      (∀ s ∈ ss, s ≠ [] ∧ '/' ∉ s ∧ '\x00' ∉ s ∧ s ≠ ['.'] ∧ s ≠ ['.', '.']) ∧
      p.toList = ss.flatMap ('/' :: ·)) ∧
    (check p = .ok () ∨ check p = .error (.refused .badArguments (some p))) ∧
    check p = examine p := by
  have hcheck : check p = .ok () ↔ isValid p := by
    unfold check
    split <;> simp_all
  refine ⟨?_, ?_, check_eq_examine p⟩
  · simp only [hcheck, ← isSegment_iff]
    constructor
    · intro h
      obtain ⟨ss, hss, rfl⟩ := exists_segments h
      by_cases hne : ss = []
      · exact .inl (by rw [hne]; rfl)
      · exact .inr ⟨ss, hne, hss, toList_ofSegments hne⟩
    · rintro (rfl | ⟨ss, hne, hss, hp⟩)
      · decide
      · obtain rfl : p = ofSegments ss := by
          rw [← String.toList_inj, toList_ofSegments hne, hp, chain]
        exact isValid_ofSegments hss
  · unfold check
    split
    · exact .inl rfl
    · exact .inr rfl

example : check "/a/./b" = .error (.refused .badArguments (some "/a/./b")) := by decide +kernel

/-! ## Parents -/

/-- **Whether a path is reached from another one** by going from parent to parent. -/
def Above (q p : String) : Prop := Relation.TransGen (fun q p => parent? p = some q) q p

/-- Parents lead to all that a path begins with, and to nothing else. -/
theorem above_iff_precedes (hp : isValid p) : Above q p ↔ Precedes q p ∧ q ≠ p := by
  constructor
  · intro h
    induction h with
    | single h =>
      refine ⟨precedes_of_parent? hp h, ?_⟩
      rintro rfl
      exact parent?_ne_self hp h
    | tail _ h ih =>
      obtain ⟨hprecedes, -⟩ := ih (isValid_of_parent? hp h)
      refine ⟨hprecedes.trans (precedes_of_parent? hp h), ?_⟩
      rintro rfl
      exact not_precedes_of_parent? hp h hprecedes
  · rintro ⟨⟨ss, ts, hall, rfl, rfl⟩, hne⟩
    clear hp
    induction ts using List.reverseRecOn with
    | nil => simp at hne
    | append_singleton ts t ih =>
      have ht : isSegment t := hall t (by simp)
      have hparent : parent? (ofSegments (ss ++ (ts ++ [t]))) = some (ofSegments (ss ++ ts)) := by
        rw [← List.append_assoc, parent?_concat _ ht]
      by_cases hnil : ts = []
      · rw [hnil, List.append_nil] at hparent
        rw [hnil]
        exact .single hparent
      · have hss : ∀ s ∈ ss ++ ts, isSegment s := fun s hs => hall s (by
          rw [← List.append_assoc]
          exact List.mem_append_left _ hs)
        refine .tail (ih hss fun heq => hnil ?_) hparent
        have hsame := ofSegments_injective (fun s hs => hss s (List.mem_append_left _ hs)) hss heq
        simpa using hsame

/-- The lineage of a node goes on from that of its parent. -/
theorem lineage_of_parent? (hp : isValid p) (h : parent? p = some q) :
    lineage p = lineage q ++ [p] := by
  obtain ⟨ss, s, hss, hs, rfl⟩ := exists_concat hp (ne_root_of_parent? h)
  rw [parent?_concat ss hs, Option.some.injEq] at h
  subst h
  have hlast (ts : List (List Char)) (ss : List (List Char)) :
      lineageFrom (chain ts) (ss ++ [s]) =
        lineageFrom (chain ts) ss ++ [ofSegments (ts ++ (ss ++ [s]))] := by
    induction ss generalizing ts with
    | nil => rw [List.nil_append, lineageFrom_chain]; rfl
    | cons t ss ih =>
      rw [List.cons_append, lineageFrom_chain, lineageFrom_chain, ih]
      simp
  rw [lineage_ofSegments (by simpa [or_imp, forall_and] using ⟨hss, hs⟩), lineage_ofSegments hss,
    hlast, List.nil_append]

/-- The root is in no lineage. -/
theorem root_notMem_lineage (hp : isValid p) : root ∉ lineage p := by
  obtain ⟨ss, hss, rfl⟩ := exists_segments hp
  rw [lineage_ofSegments hss, mem_lineageFrom_iff]
  rintro ⟨us, hne, hbegins, h⟩
  obtain ⟨us, u, rfl⟩ := (List.eq_nil_or_concat us).resolve_left hne
  rw [List.concat_eq_append] at hbegins h
  exact concat_ne_root (hss u (hbegins.subset (by simp))) h.symm

instance transAbove : Trans Above Above Above := ⟨Relation.TransGen.trans⟩

/-- Each path of a lineage is above all that come after it. -/
theorem pairwise_lineage (hp : isValid p) : (lineage p).Pairwise Above := by
  have hchain := (isChain_lineage hp).imp (S := Above) fun _ _ h => .single h
  exact hchain.pairwise.of_cons

/-- **What cutting, gluing and lineages make of paths.** Every path but the root has a parent, which
is a path, and a name, which is a segment, and is glued together from them. A segment that is glued
to a path gives a path with this parent and this name. The lineage of the root is empty; that of any
other path lists what is above it, but for the root, and then the path itself: each one a path,
above all that come later, the parent of the next one, and the first one right below the root. -/
theorem cut_and_glued :
    (∀ p, isValid p → p ≠ root → ∃ q, parent? p = some q ∧ isValid q ∧
      isSegment (name p).toList ∧ join q (name p) = p) ∧
    (∀ p c, isValid p → isSegment c.toList →
      isValid (join p c) ∧ parent? (join p c) = some p ∧ name (join p c) = c) ∧
    lineage root = [] ∧
    ∀ p, isValid p → p ≠ root →
      (∃ above, lineage p = above ++ [p] ∧ ∀ q, q ∈ above ↔ q ≠ root ∧ Above q p) ∧
      (∀ q ∈ lineage p, isValid q) ∧ (lineage p).Nodup ∧ (lineage p).Pairwise Above ∧
      (lineage p).IsChain (fun q r => parent? r = some q) ∧
      ∃ q, (lineage p).head? = some q ∧ parent? q = some root := by
  refine ⟨fun p hp hr => ?_, fun p c hp hc => ?_, by decide, fun p hp hr => ?_⟩
  · obtain ⟨ss, s, hss, hs, rfl⟩ := exists_concat hp hr
    rw [parent?_concat ss hs, name_concat ss hs, String.toList_ofList]
    exact ⟨_, rfl, isValid_ofSegments hss, hs, join_ofSegments hss hs⟩
  · obtain ⟨ss, hss, rfl⟩ := exists_segments hp
    have hjoin := join_ofSegments hss hc
    rw [String.ofList_toList] at hjoin
    rw [hjoin, parent?_concat ss hc, name_concat ss hc, String.ofList_toList]
    exact ⟨isValid_ofSegments (by simpa [or_imp, forall_and] using ⟨hss, hc⟩), rfl, rfl⟩
  · obtain ⟨q, hq⟩ := exists_parent? hp hr
    have hqvalid := isValid_of_parent? hp hq
    have hlineage := lineage_of_parent? hp hq
    have hpairwise := pairwise_lineage hp
    have hvalid {r : String} (hr : r ∈ lineage p) : isValid r := isValid_of_mem_lineage hp hr
    refine ⟨⟨lineage q, hlineage, fun r => ?_⟩, fun r hr => hvalid hr, ?_, hpairwise,
      (isChain_lineage hp).of_cons, ?_⟩
    · constructor
      · intro hr
        have hmem : r ∈ lineage p := hlineage ▸ List.mem_append_left _ hr
        refine ⟨fun heq => root_notMem_lineage hqvalid (heq ▸ hr), ?_⟩
        rw [hlineage, List.pairwise_append] at hpairwise
        exact hpairwise.2.2 r hr p (by simp)
      · rintro ⟨hne, habove⟩
        obtain ⟨hprecedes, hself⟩ := (above_iff_precedes hp).mp habove
        have hmem := ((precedes_iff_mem_lineage hp).mp hprecedes).resolve_left hne
        rw [hlineage, List.mem_append, List.mem_singleton] at hmem
        exact hmem.resolve_right hself
    · refine List.nodup_iff_pairwise_ne.mpr (hpairwise.imp_of_mem fun _ hb habove => ?_)
      exact ((above_iff_precedes (hvalid hb)).mp habove).2
    · have hchain := isChain_lineage hp
      cases hfirst : lineage p with
      | nil => simp [hfirst] at hlineage
      | cons r rest =>
        rw [hfirst, List.isChain_cons_cons] at hchain
        exact ⟨r, rfl, hchain.1⟩

/-- A node three segments down, one of which begins with dots. -/
theorem cut_and_glued_of_deep :
    parent? "/a/...b/c d" = some "/a/...b" ∧ join "/a/...b" (name "/a/...b/c d") = "/a/...b/c d" ∧
    parent? (join "/" "é") = some "/" ∧ name (join "/" "é") = "é" ∧
    lineage "/a/...b/c d" = ["/a", "/a/...b", "/a/...b/c d"] ∧
    (∀ q, q ∈ ["/a", "/a/...b"] ↔ q ≠ root ∧ Above q "/a/...b/c d") := by
  obtain ⟨hcut, hglued, -, hlineage⟩ := cut_and_glued
  have hp : isValid "/a/...b/c d" := by decide +kernel
  have hr : "/a/...b/c d" ≠ root := by decide
  obtain ⟨q, hq, -, -, hjoin⟩ := hcut _ hp hr
  obtain ⟨-, hparent, hname⟩ := hglued "/" "é" (by decide) (by decide +kernel)
  obtain ⟨⟨above, habove, hmem⟩, -⟩ := hlineage _ hp hr
  have hparent? : parent? "/a/...b/c d" = some "/a/...b" := by decide +kernel
  have hlist : lineage "/a/...b/c d" = ["/a", "/a/...b"] ++ ["/a/...b/c d"] := by decide +kernel
  obtain rfl : "/a/...b" = q := Option.some.inj (hparent?.symm.trans hq)
  obtain rfl : above = ["/a", "/a/...b"] := List.append_cancel_right (habove.symm.trans hlist)
  exact ⟨hq, hjoin, hparent, hname, hlist, hmem⟩

end Path

end Coordination
