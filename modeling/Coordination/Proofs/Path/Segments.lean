import Coordination.Path

/-!
# Paths as sequences of segments

A well-formed path is the same thing as a sequence of segments: `Path.ofSegments` writes a slash
before each, and the empty sequence is the root. Cutting and gluing become operations at the end of
the sequence, so that what the tree needs of paths is read off lists and never off texts.

## Main definitions

* `Path.chain`, `Path.ofSegments`: the characters and the path of a sequence of segments

## Main results

* `exists_segments`, `ofSegments_injective`: every path comes from one sequence of segments
* `parent?_concat`, `name_concat`, `join_ofSegments`: cutting and gluing at the end
* `eq_of_parent?_of_name`: a path is told by its parent and its name
* `isValid_append`, `parent?_append`, `name_append`: a counter at the end of a name leaves the
  parent
  alone
-/

namespace Coordination.Path

/-! ## Segments -/

variable {s : List Char} {ss : List (List Char)} {p q : String}

theorem isSegment_iff :
    isSegment s ↔ s ≠ [] ∧ '/' ∉ s ∧ '\x00' ∉ s ∧ s ≠ ['.'] ∧ s ≠ ['.', '.'] := by
  simp [isSegment, and_assoc]

theorem ne_nil_of_isSegment (h : isSegment s) : s ≠ [] := (isSegment_iff.mp h).1

theorem slash_notMem_of_isSegment (h : isSegment s) : '/' ∉ s := (isSegment_iff.mp h).2.1

/-- A segment with more characters at its end is a segment, as long as they are none of the
characters that the grammar knows. -/
theorem isSegment_append {cs : List Char} (h : isSegment s) (hne : cs ≠ [])
    (hcs : ∀ c ∈ cs, c ≠ '/' ∧ c ≠ '\x00' ∧ c ≠ '.') : isSegment (s ++ cs) := by
  obtain ⟨h₀, hslash, hnul, -, -⟩ := isSegment_iff.mp h
  -- a dot at the end would have to be the last of the new characters
  have hlast : ∀ l : List Char, s ++ cs ≠ l ++ ['.'] := by
    intro l heq
    obtain ⟨cs, c, rfl⟩ := (List.eq_nil_or_concat cs).resolve_left hne
    rw [List.concat_eq_append, ← List.append_assoc] at heq
    have hc : c = '.' := (List.append_singleton_inj.mp heq).2
    exact (hcs c (by simp)).2.2 hc
  refine isSegment_iff.mpr ⟨by simp [h₀], ?_, ?_, hlast [], hlast ['.']⟩
  · simpa [hslash] using fun hc => (hcs '/' hc).1 rfl
  · simpa [hnul] using fun hc => (hcs '\x00' hc).2.1 rfl

/-! ## Sequences of segments -/

/-- The characters of segments, a slash standing before each. -/
def chain (ss : List (List Char)) : List Char := ss.flatMap ('/' :: ·)

/-- The path of a sequence of segments; that of the empty one is the root. -/
def ofSegments (ss : List (List Char)) : String :=
  if ss.isEmpty then root else String.ofList (chain ss)

@[simp] theorem chain_nil : chain [] = [] := rfl

@[simp] theorem chain_cons (s : List Char) (ss : List (List Char)) :
    chain (s :: ss) = '/' :: s ++ chain ss := rfl

@[simp] theorem chain_append (ss ts : List (List Char)) : chain (ss ++ ts) = chain ss ++ chain ts :=
  List.flatMap_append

@[simp] theorem ofSegments_nil : ofSegments [] = root := rfl

theorem toList_ofSegments (h : ss ≠ []) : (ofSegments ss).toList = chain ss := by
  simp [ofSegments, h]

theorem toList_concat (ss : List (List Char)) (s : List Char) :
    (ofSegments (ss ++ [s])).toList = chain ss ++ '/' :: s := by
  rw [toList_ofSegments (by simp)]
  simp

/-- Gluing pieces with slashes between them, after a slash, is writing a slash before each. -/
theorem slash_intercalate (h : ss ≠ []) : '/' :: ['/'].intercalate ss = chain ss := by
  induction ss with
  | nil => exact absurd rfl h
  | cons s ss ih =>
    cases ss with
    | nil => simp
    | cons t ts =>
      have ih := ih (by simp)
      rw [chain_cons, ← ih, List.intercalate_cons_cons]
      simp

theorem pieces_of_chain (h : ∀ t ∈ s :: ss, isSegment t) : pieces (s ++ chain ss) = s :: ss := by
  have hglue : s ++ chain ss = ['/'].intercalate (s :: ss) := by
    have hslash : '/' :: ['/'].intercalate (s :: ss) = chain (s :: ss) :=
      slash_intercalate (by simp)
    simpa using hslash.symm
  rw [pieces, hglue]
  exact List.splitOn_intercalate '/' (fun t ht => slash_notMem_of_isSegment (h t ht)) (by simp)

theorem isValid_ofSegments (h : ∀ t ∈ ss, isSegment t) : isValid (ofSegments ss) := by
  cases ss with
  | nil => decide
  | cons s ss =>
    rw [isValid, toList_ofSegments (by simp), chain_cons, List.cons_append]
    simp only [isValidChars, pieces_of_chain h, Bool.or_eq_true, List.all_eq_true]
    exact Or.inr h

/-- **Every path is the path of its segments.** -/
theorem exists_segments (h : isValid p) : ∃ ss, (∀ t ∈ ss, isSegment t) ∧ p = ofSegments ss := by
  rw [isValid] at h
  match hp : p.toList with
  | [] => simp [hp, isValidChars] at h
  | c :: rest =>
    by_cases hc : c = '/'
    · subst hc
      simp only [hp, isValidChars, Bool.or_eq_true, List.isEmpty_iff, List.all_eq_true] at h
      rcases h with rfl | h
      · exact ⟨[], by simp, by rw [← String.toList_inj, hp]; rfl⟩
      · have hne : pieces rest ≠ [] := List.splitOn_ne_nil _ _
        refine ⟨pieces rest, h, ?_⟩
        rw [← String.toList_inj, hp, toList_ofSegments hne, ← slash_intercalate hne, pieces,
          List.intercalate_splitOn]
    · rw [hp] at h
      unfold isValidChars at h
      split at h
      · rename_i heq
        exact absurd (List.cons.inj heq).1 hc
      · simp at h

/-- A path is the root, or it ends in a segment. -/
theorem eq_root_or_concat (h : isValid p) :
    p = root ∨ ∃ ss s, (∀ t ∈ ss, isSegment t) ∧ isSegment s ∧ p = ofSegments (ss ++ [s]) := by
  obtain ⟨ss, hss, rfl⟩ := exists_segments h
  rcases List.eq_nil_or_concat ss with rfl | ⟨ss, s, rfl⟩
  · exact Or.inl rfl
  · rw [List.concat_eq_append] at hss ⊢
    exact Or.inr ⟨ss, s, fun t ht => hss t (by simp [ht]), hss s (by simp), rfl⟩

theorem exists_concat (h : isValid p) (hr : p ≠ root) :
    ∃ ss s, (∀ t ∈ ss, isSegment t) ∧ isSegment s ∧ p = ofSegments (ss ++ [s]) :=
  (eq_root_or_concat h).resolve_left hr

/-- Only the empty sequence of segments gives the root. -/
theorem concat_ne_root (hs : isSegment s) : ofSegments (ss ++ [s]) ≠ root := by
  intro h
  have hchars : chain ss ++ '/' :: s = ['/'] := by
    rw [← toList_concat, h]
    rfl
  have hlen := congrArg List.length hchars
  have hpos := List.length_pos_iff.mpr (ne_nil_of_isSegment hs)
  simp at hlen
  omega

theorem ofSegments_injective {ts : List (List Char)} (hs : ∀ s ∈ ss, isSegment s)
    (ht : ∀ t ∈ ts, isSegment t) (h : ofSegments ss = ofSegments ts) : ss = ts := by
  rcases List.eq_nil_or_concat ss with rfl | ⟨ss, s, rfl⟩ <;>
    rcases List.eq_nil_or_concat ts with rfl | ⟨ts, t, rfl⟩ <;>
    simp only [List.concat_eq_append] at *
  · exact absurd h.symm (concat_ne_root (ht t (by simp)))
  · exact absurd h (concat_ne_root (hs s (by simp)))
  · have hchain : chain (ss ++ [s]) = chain (ts ++ [t]) := by
      rw [← toList_ofSegments (by simp), h, toList_ofSegments (by simp)]
    have hne : ∀ l : List (List Char), ∀ a, l ++ [a] ≠ [] := by simp
    rw [← slash_intercalate (hne _ _), ← slash_intercalate (hne _ _), List.cons.injEq] at hchain
    rw [← List.splitOn_intercalate '/' (fun a ha => slash_notMem_of_isSegment (hs a ha)) (hne _ _),
      hchain.2,
      List.splitOn_intercalate '/' (fun a ha => slash_notMem_of_isSegment (ht a ha)) (hne _ _)]

/-! ## Cutting and gluing at the end -/

theorem ne_slash_of_mem_reverse (hs : '/' ∉ s) : ∀ c ∈ s.reverse, (c != '/') = true := by
  intro c hc
  rw [List.mem_reverse] at hc
  simpa using fun h : c = '/' => hs (h ▸ hc)

theorem takeWhile_reverse_concat (cs : List Char) (hs : '/' ∉ s) :
    (cs ++ '/' :: s).reverse.takeWhile (· != '/') = s.reverse := by
  rw [List.reverse_append, List.reverse_cons, List.append_assoc,
    List.takeWhile_append_of_pos (ne_slash_of_mem_reverse hs)]
  simp

theorem dropWhile_reverse_concat (cs : List Char) (hs : '/' ∉ s) :
    (cs ++ '/' :: s).reverse.dropWhile (· != '/') = '/' :: cs.reverse := by
  rw [List.reverse_append, List.reverse_cons, List.append_assoc,
    List.dropWhile_append_of_pos (ne_slash_of_mem_reverse hs)]
  simp

theorem name_concat (ss : List (List Char)) (hs : isSegment s) :
    name (ofSegments (ss ++ [s])) = String.ofList s := by
  rw [name, toList_concat, nameChars, takeWhile_reverse_concat _ (slash_notMem_of_isSegment hs),
    List.reverse_reverse]

theorem parent?_concat (ss : List (List Char)) (hs : isSegment s) :
    parent? (ofSegments (ss ++ [s])) = some (ofSegments ss) := by
  rw [parent?, if_neg (concat_ne_root hs), toList_concat, stemChars?,
    dropWhile_reverse_concat _ (slash_notMem_of_isSegment hs)]
  cases ss <;> simp [ofSegments]

theorem dropWhile_slash {cs : List Char} (h : cs.head? ≠ some '/') :
    cs.dropWhile (· == '/') = cs := by
  cases cs with
  | nil => rfl
  | cons c cs =>
    have hc : (c == '/') = false := by simpa using h
    rw [List.dropWhile_cons, hc]
    rfl

theorem trimLeft_of_isSegment (hs : isSegment s) : trimLeft s = s :=
  dropWhile_slash fun h => slash_notMem_of_isSegment hs (List.mem_of_head? h)

theorem trimRight_concat (cs : List Char) (hs : isSegment s) :
    trimRight (cs ++ '/' :: s) = cs ++ '/' :: s := by
  have hlast : (cs ++ '/' :: s).getLast? = s.getLast? := by
    obtain ⟨s, c, rfl⟩ := (List.eq_nil_or_concat s).resolve_left (ne_nil_of_isSegment hs)
    rw [List.concat_eq_append, ← List.cons_append, ← List.append_assoc]
    simp only [List.getLast?_concat]
  rw [trimRight, dropWhile_slash, List.reverse_reverse]
  rw [List.head?_reverse, hlast]
  exact fun h => slash_notMem_of_isSegment hs (List.mem_of_getLast? h)

/-- **Gluing a segment to a path puts it at the end of the path's segments.** -/
theorem join_ofSegments (hss : ∀ t ∈ ss, isSegment t) (hs : isSegment s) :
    join (ofSegments ss) (String.ofList s) = ofSegments (ss ++ [s]) := by
  rw [← String.toList_inj, toList_concat, join, String.toList_ofList, trimLeft_of_isSegment hs]
  rcases List.eq_nil_or_concat ss with rfl | ⟨ss, t, rfl⟩
  · simp
  · rw [List.concat_eq_append] at hss ⊢
    have ht : isSegment t := hss t (by simp)
    have hne : ofSegments (ss ++ [t]) ≠ "" := by
      rw [ne_eq, ← String.toList_inj, toList_concat]
      simp
    rw [if_neg (by simp [concat_ne_root ht, hne]), if_neg (by simp [ne_nil_of_isSegment hs]),
      toList_concat, trimRight_concat _ ht]
    simp

/-! ## Paths, their parents and their names -/

theorem isValid_of_parent? (hp : isValid p) (h : parent? p = some q) : isValid q := by
  rcases eq_root_or_concat hp with rfl | ⟨ss, s, hss, hs, rfl⟩
  · simp [parent?] at h
  · rw [parent?_concat ss hs, Option.some.injEq] at h
    exact h ▸ isValid_ofSegments hss

/-- Every path but the root has a parent. -/
theorem exists_parent? (hp : isValid p) (hr : p ≠ root) : ∃ q, parent? p = some q := by
  obtain ⟨ss, s, -, hs, rfl⟩ := exists_concat hp hr
  exact ⟨_, parent?_concat ss hs⟩

theorem parent?_root : parent? root = none := rfl

theorem ne_root_of_parent? (h : parent? p = some q) : p ≠ root := by
  rintro rfl
  simp [parent?_root] at h

theorem parent?_ne_self (hp : isValid p) : parent? p ≠ some p := by
  intro h
  obtain ⟨ss, s, hss, hs, rfl⟩ := exists_concat hp (ne_root_of_parent? h)
  rw [parent?_concat ss hs, Option.some.injEq] at h
  have heq : ss = ss ++ [s] :=
    ofSegments_injective hss (by simpa [or_imp, forall_and] using ⟨hss, hs⟩) h
  simp at heq

/-- A path is glued together from its parent and its name. -/
theorem join_name (hp : isValid p) (h : parent? p = some q) : join q (name p) = p := by
  obtain ⟨ss, s, hss, hs, rfl⟩ := exists_concat hp (ne_root_of_parent? h)
  rw [parent?_concat ss hs, Option.some.injEq] at h
  rw [← h, name_concat ss hs, join_ofSegments hss hs]

/-- A path is told by its parent and its name. -/
theorem eq_of_parent?_of_name {p' : String} (hp : isValid p) (hp' : isValid p')
    (h : parent? p = some q) (h' : parent? p' = some q) (hn : name p = name p') : p = p' := by
  rw [← join_name hp h, hn, join_name hp' h']

section Suffix

variable {cs : List Char}

/-- A path with more characters at the end of its name. -/
theorem concat_append (ss : List (List Char)) (s cs : List Char) :
    ofSegments (ss ++ [s]) ++ String.ofList cs = ofSegments (ss ++ [s ++ cs]) := by
  rw [← String.toList_inj, String.toList_append, toList_concat, toList_concat]
  simp

theorem isValid_append (hp : isValid p) (hr : p ≠ root) (hne : cs ≠ [])
    (hcs : ∀ c ∈ cs, c ≠ '/' ∧ c ≠ '\x00' ∧ c ≠ '.') : isValid (p ++ String.ofList cs) := by
  obtain ⟨ss, s, hss, hs, rfl⟩ := exists_concat hp hr
  rw [concat_append]
  refine isValid_ofSegments ?_
  simpa [or_imp, forall_and] using ⟨hss, isSegment_append hs hne hcs⟩

theorem parent?_append (hp : isValid p) (hr : p ≠ root) (hne : cs ≠ [])
    (hcs : ∀ c ∈ cs, c ≠ '/' ∧ c ≠ '\x00' ∧ c ≠ '.') :
    parent? (p ++ String.ofList cs) = parent? p := by
  obtain ⟨ss, s, -, hs, rfl⟩ := exists_concat hp hr
  rw [concat_append, parent?_concat ss hs, parent?_concat ss (isSegment_append hs hne hcs)]

theorem name_append (hp : isValid p) (hr : p ≠ root) (hne : cs ≠ [])
    (hcs : ∀ c ∈ cs, c ≠ '/' ∧ c ≠ '\x00' ∧ c ≠ '.') :
    name (p ++ String.ofList cs) = name p ++ String.ofList cs := by
  obtain ⟨ss, s, -, hs, rfl⟩ := exists_concat hp hr
  rw [concat_append, name_concat ss hs, name_concat ss (isSegment_append hs hne hcs),
    String.ofList_append]

end Suffix

end Coordination.Path
