import Coordination.Proofs.Text.Regex.Search
import Coordination.Text.Regex.Compile

/-!
# What simple forms keep

The operations that put expressions together keep them tidy: a row begins with something, a choice
has no choice for its first branch, and no repetition has less room than it needs. Of tidy
expressions, the choice among the branches of a choice is that choice again; and a row matches what
its parts match one after the other.

## Main definitions

* `Regex.IsTidy`: what the operations keep

## Main results

* `Regex.isTidy_anyOf`, `Pattern.isTidy_of_compileWith`: what is put together is tidy
* `Regex.anyOf_anyOf`: a choice is its own simple form
* `Regex.matches_append_iff`: what a row matches
-/

namespace Coordination.Text

namespace Regex

/-- Whether an expression is a choice. -/
def isChoice : Regex → Bool
  | .alt _ _ => true
  | _ => false

/-- **Whether an expression is tidy**: no row begins with the empty expression, no choice with a
choice, and no repetition has to take more rounds than it may. -/
def IsTidy : Regex → Prop
  | .empty | .literal _ | .oneOf _ | .look _ => True
  | .seq a b => a ≠ .empty ∧ a.IsTidy ∧ b.IsTidy
  | .alt a b => a.isChoice = false ∧ a.IsTidy ∧ b.IsTidy
  | .repetition least most a => (∀ m ∈ most, least ≤ m) ∧ a.IsTidy
  | .group a => a.IsTidy

variable {t : Array Char} {a b r : Regex} {rs : List Regex} {i j k : Nat}

theorem IsTidy.isBounded (h : r.IsTidy) : r.IsBounded := by
  induction r with
  | empty | literal | oneOf | look => trivial
  | seq a b iha ihb | alt a b iha ihb => exact ⟨iha h.2.1, ihb h.2.2⟩
  | repetition least most a ih => exact ⟨h.1, ih h.2⟩
  | group a ih => exact ih h

/-! ## Rows -/

theorem isTidy_attach (hr : r.IsTidy) (hne : r ≠ .empty) (hb : b.IsTidy) :
    (attach r b).IsTidy := by
  unfold attach
  split
  · exact hr
  · split
    · trivial
    · exact ⟨hne, hr, hb⟩
  · split
    · exact ⟨by simp, trivial, hb.2.2⟩
    · exact ⟨hne, hr, hb⟩
  · exact ⟨hne, hr, hb⟩

theorem isTidy_append (ha : a.IsTidy) (hb : b.IsTidy) : (append a b).IsTidy := by
  induction a with
  | empty => exact hb
  | seq a a' _ ih => exact isTidy_attach ha.2.1 ha.1 (ih ha.2.2)
  | literal | oneOf | look | alt | repetition | group =>
    exact isTidy_attach ha (by simp) hb

theorem isTidy_ofParts (h : ∀ r ∈ rs, r.IsTidy ∧ r ≠ .empty) : (ofParts rs).IsTidy := by
  induction rs with
  | nil => trivial
  | cons r rs ih =>
    obtain ⟨⟨hr, hne⟩, hrs⟩ := List.forall_mem_cons.mp h
    cases rs with
    | nil => exact hr
    | cons r' rs => exact ⟨hne, hr, ih hrs⟩

/-- What a tidy row has for parts. -/
theorem IsTidy.of_mem_parts (h : r.IsTidy) (ha : a ∈ parts r) : a.IsTidy ∧ a ≠ .empty := by
  induction r with
  | empty => cases ha
  | seq b c _ ih =>
    rcases List.mem_cons.mp ha with rfl | ha
    · exact ⟨h.2.1, h.1⟩
    · exact ih h.2.2 ha
  | literal | oneOf | look | alt | repetition | group =>
    obtain rfl := List.mem_singleton.mp ha
    exact ⟨h, by simp⟩

theorem attach_ne_empty (hb : b ≠ .empty) : attach r b ≠ .empty := by
  unfold attach
  split
  · exact absurd rfl hb
  all_goals first | (split <;> simp) | simp

theorem append_ne_empty (hb : b ≠ .empty) : append a b ≠ .empty := by
  induction a with
  | empty => exact hb
  | seq a a' _ ih => exact attach_ne_empty ih
  | literal | oneOf | look | alt | repetition | group => exact attach_ne_empty hb

theorem isChoice_attach (hb : b ≠ .empty) : (attach r b).isChoice = false := by
  unfold attach
  split
  · exact absurd rfl hb
  all_goals first | (split <;> rfl) | rfl

/-- A row is no choice. -/
theorem isChoice_append (hb : b ≠ .empty) (h : a ≠ .empty ∨ b.isChoice = false) :
    (append a b).isChoice = false := by
  cases a with
  | empty => exact h.resolve_left fun hne => hne rfl
  | seq a a' => exact isChoice_attach (append_ne_empty hb)
  | literal | oneOf | look | alt | repetition | group => exact isChoice_attach hb

/-- Characters that stand in a row match one after the other. -/
theorem matches_literal_append_iff {cs ds : List Char} :
    Matches t (.literal (cs ++ ds)) i k ↔
      ∃ j, Matches t (.literal cs) i j ∧ Matches t (.literal ds) j k := by
  induction cs generalizing i with
  | nil =>
    simp only [List.nil_append, matches_literal_nil_iff]
    exact ⟨fun h => ⟨i, ⟨Nat.le_trans h.le.1 h.le.2, rfl⟩, h⟩, by rintro ⟨_, ⟨-, rfl⟩, h⟩; exact h⟩
  | cons c cs ih =>
    simp only [List.cons_append, matches_literal_cons_iff, ih, and_assoc, exists_and_left]

theorem matches_attach_iff :
    Matches t (attach r b) i k ↔ ∃ j, Matches t r i j ∧ Matches t b j k := by
  unfold attach
  split
  · simp only [matches_empty_iff]
    exact ⟨fun h => ⟨k, h, h.le.2, rfl⟩, by rintro ⟨_, h, -, rfl⟩; exact h⟩
  · split
    · exact matches_literal_append_iff
    · exact matches_seq_iff
  · split
    · simp only [matches_seq_iff, matches_literal_append_iff]
      constructor
      · rintro ⟨l, ⟨j, hij, hjl⟩, hlk⟩
        exact ⟨j, hij, l, hjl, hlk⟩
      · rintro ⟨j, hij, l, hjl, hlk⟩
        exact ⟨l, ⟨j, hij, hjl⟩, hlk⟩
    · exact matches_seq_iff
  · exact matches_seq_iff

/-- **A row matches what its parts match**, one after the other. -/
theorem matches_append_iff :
    Matches t (append a b) i k ↔ ∃ j, Matches t a i j ∧ Matches t b j k := by
  induction a generalizing i with
  | empty =>
    simp only [append, matches_empty_iff]
    exact ⟨fun h => ⟨i, ⟨Nat.le_trans h.le.1 h.le.2, rfl⟩, h⟩, by rintro ⟨_, ⟨-, rfl⟩, h⟩; exact h⟩
  | seq a a' _ ih =>
    simp only [append, matches_attach_iff, matches_seq_iff, ih]
    constructor
    · rintro ⟨j, hij, l, hjl, hlk⟩
      exact ⟨l, ⟨j, hij, hjl⟩, hlk⟩
    · rintro ⟨l, ⟨j, hij, hjl⟩, hlk⟩
      exact ⟨j, hij, l, hjl, hlk⟩
  | literal | oneOf | look | alt | repetition | group => exact matches_attach_iff

/-! ## Choices -/

theorem branches_eq_singleton (h : r.isChoice = false) : branches r = [r] := by
  cases r with
  | alt => cases h
  | _ => rfl

theorem length_le_length_flatMap_branches (rs : List Regex) :
    rs.length ≤ (rs.flatMap branches).length := by
  induction rs with
  | nil => exact Nat.le_refl _
  | cons r rs ih =>
    have hr : 0 < (branches r).length := by cases r <;> simp [branches]
    rw [List.flatMap_cons, List.length_append, List.length_cons]
    omega

/-- What a tidy choice has for branches. -/
theorem IsTidy.of_mem_branches (h : r.IsTidy) (ha : a ∈ branches r) :
    a.IsTidy ∧ a.isChoice = false := by
  induction r with
  | alt b c _ ih =>
    rcases List.mem_cons.mp ha with rfl | ha
    · exact ⟨h.2.1, h.1⟩
    · exact ih h.2.2 ha
  | empty | literal | oneOf | look | seq | repetition | group =>
    obtain rfl := List.mem_singleton.mp ha
    exact ⟨h, rfl⟩

theorem isTidy_ofBranches (h : ∀ r ∈ rs, r.IsTidy ∧ r.isChoice = false) :
    (ofBranches rs).IsTidy := by
  induction rs with
  | nil => trivial
  | cons r rs ih =>
    obtain ⟨⟨hr, hchoice⟩, hrs⟩ := List.forall_mem_cons.mp h
    cases rs with
    | nil => exact hr
    | cons r' rs => exact ⟨hchoice, hr, ih hrs⟩

theorem branches_ofBranches (hne : rs ≠ []) (h : ∀ r ∈ rs, r.isChoice = false) :
    branches (ofBranches rs) = rs := by
  induction rs with
  | nil => exact absurd rfl hne
  | cons r rs ih =>
    obtain ⟨hr, hrs⟩ := List.forall_mem_cons.mp h
    cases rs with
    | nil => exact branches_eq_singleton hr
    | cons r' rs => rw [ofBranches, branches, ih (by simp) hrs]; simp

/-- A set is one character or one of some characters. -/
theorem ofSet_cases (s : Unicode.CodeSet) :
    (∃ cs, ofSet s = .literal cs) ∨ ∃ s', ofSet s = .oneOf s' := by
  unfold ofSet
  split
  · exact .inl ⟨_, rfl⟩
  · exact .inr ⟨_, rfl⟩

theorem isTidy_ofSet (s : Unicode.CodeSet) : (ofSet s).IsTidy := by
  rcases ofSet_cases s with ⟨cs, h⟩ | ⟨s', h⟩ <;> rw [h] <;> trivial

/-- How a choice comes out. -/
theorem choice_cases (other : List Regex → Regex) (rs : List Regex) :
    (∃ r, rs = [r] ∧ choice other rs = r) ∨
      rs.length ≠ 1 ∧
        ((∃ s, choice other rs = ofSet s) ∨ rs ≠ [] ∧ choice other rs = other rs) := by
  unfold choice
  split
  · exact .inl ⟨_, rfl, rfl⟩
  · rename_i hne
    refine .inr ⟨fun hlength => ?_, ?_⟩
    · obtain ⟨r, rfl⟩ := List.length_eq_one_iff.mp hlength
      exact hne r rfl
    · split
      · exact .inl ⟨_, rfl⟩
      · rename_i hnone
        split
        · exact .inl ⟨_, rfl⟩
        · refine .inr ⟨?_, rfl⟩
          rintro rfl
          cases hnone

theorem isTidy_choice {other : List Regex → Regex} (h : ∀ r ∈ rs, r.IsTidy)
    (hother : (other rs).IsTidy) : (choice other rs).IsTidy := by
  rcases choice_cases other rs with ⟨r, rfl, hr⟩ | ⟨-, ⟨s, hs⟩ | ⟨-, hrs⟩⟩
  · rw [hr]
    exact h r (by simp)
  · rw [hs]
    exact isTidy_ofSet s
  · rw [hrs]
    exact hother

theorem commonParts_subset (xs ys : List Regex) : commonParts xs ys ⊆ xs := by
  induction xs generalizing ys with
  | nil => simp [commonParts]
  | cons x xs ih =>
    cases ys with
    | nil => simp [commonParts]
    | cons y ys =>
      rw [commonParts]
      split
      · exact List.cons_subset_cons x (ih ys)
      · simp

theorem foldl_commonParts_subset (row : List Regex) (rows : List (List Regex)) :
    rows.foldl commonParts row ⊆ row := by
  induction rows generalizing row with
  | nil => simp
  | cons row' rows ih => exact List.Subset.trans (ih _) (commonParts_subset row row')

/-- How a choice between rows comes out: as it is, or with what all rows begin with before a choice
between what is left of them. -/
theorem factored_cases (rs : List Regex) :
    factored rs = ofBranches rs ∨
      ∃ start rest : List Regex, start ≠ [] ∧ (∀ a ∈ start, ∃ r ∈ rs, a ∈ parts r) ∧
        rest.length = rs.length ∧ (∀ b ∈ rest, ∃ r ∈ rs, ∃ n, b = ofParts ((parts r).drop n)) ∧
        factored rs = append (ofParts start) (choice ofBranches (rest.flatMap branches)) := by
  unfold factored
  split
  · exact .inl rfl
  · split
    · exact .inl rfl
    · rename_i row rows hrows
      extract_lets start rest
      split
      · exact .inl rfl
      · rename_i hstart
        refine .inr ⟨_, _, by simpa using hstart, fun a ha => ?_, ?_, fun b hb => ?_, rfl⟩
        · have hrow : row ∈ rs.map parts := by rw [hrows]; simp
          obtain ⟨r, hr, rfl⟩ := List.mem_map.mp hrow
          exact ⟨r, hr, foldl_commonParts_subset _ _ ha⟩
        · rw [List.length_map, ← hrows, List.length_map]
        · obtain ⟨row', hrow', rfl⟩ := List.mem_map.mp hb
          rw [← hrows] at hrow'
          obtain ⟨r, hr, rfl⟩ := List.mem_map.mp hrow'
          exact ⟨r, hr, _, rfl⟩

theorem isTidy_factored (h : ∀ r ∈ rs, r.IsTidy ∧ r.isChoice = false) : (factored rs).IsTidy := by
  rcases factored_cases rs with hrs | ⟨start, rest, -, hstart, -, hrest, hrs⟩ <;> rw [hrs]
  · exact isTidy_ofBranches h
  · have hbranch : ∀ a ∈ rest.flatMap branches, a.IsTidy ∧ a.isChoice = false := by
      intro a ha
      obtain ⟨b, hb, ha⟩ := List.mem_flatMap.mp ha
      obtain ⟨r, hr, n, rfl⟩ := hrest b hb
      exact (isTidy_ofParts fun p hp =>
        (h r hr).1.of_mem_parts (List.mem_of_mem_drop hp)).of_mem_branches ha
    refine isTidy_append (isTidy_ofParts fun a ha => ?_)
      (isTidy_choice (fun a ha => (hbranch a ha).1) (isTidy_ofBranches hbranch))
    obtain ⟨r, hr, ha⟩ := hstart a ha
    exact (h r hr).1.of_mem_parts ha

theorem of_mem_flatMap_branches (h : ∀ r ∈ rs, r.IsTidy) :
    ∀ a ∈ rs.flatMap branches, a.IsTidy ∧ a.isChoice = false := by
  intro a ha
  obtain ⟨r, hr, ha⟩ := List.mem_flatMap.mp ha
  exact (h r hr).of_mem_branches ha

/-- **A choice of tidy expressions is tidy.** -/
theorem isTidy_anyOf (h : ∀ r ∈ rs, r.IsTidy) : (anyOf rs).IsTidy :=
  have hbranch := of_mem_flatMap_branches h
  isTidy_choice (fun a ha => (hbranch a ha).1) (isTidy_factored hbranch)

theorem anyOf_singleton (h : r.isChoice = false) : anyOf [r] = r := by
  rw [anyOf, List.flatMap_singleton, branches_eq_singleton h, choice]

/-- A choice between rows that begin alike is no choice any more. -/
theorem isChoice_factored (hlength : 1 < rs.length) (h : ∀ r ∈ rs, r.IsTidy) :
    factored rs = ofBranches rs ∨ (factored rs).isChoice = false := by
  refine (factored_cases rs).imp_right ?_
  rintro ⟨start, rest, hne, hstart, hrest, -, hrs⟩
  rw [hrs]
  have hbranches : 1 < (rest.flatMap branches).length := by
    have hle := length_le_length_flatMap_branches rest
    omega
  have hafter : choice ofBranches (rest.flatMap branches) ≠ .empty := by
    rcases choice_cases ofBranches (rest.flatMap branches) with ⟨r, hr, -⟩ | ⟨-, ⟨s, hs⟩ | ⟨-, hrs⟩⟩
    · rw [hr] at hbranches
      exact absurd hbranches (by simp)
    · rw [hs]
      rcases ofSet_cases s with ⟨cs, h⟩ | ⟨s', h⟩ <;> rw [h] <;> simp
    · rw [hrs]
      match hmany : rest.flatMap branches, hbranches with
      | _ :: _ :: _, _ => simp [ofBranches]
  have hbefore : ofParts start ≠ .empty := by
    match start, hne with
    | [a], _ =>
      obtain ⟨r, hr, ha⟩ := hstart a (by simp)
      exact ((h r hr).of_mem_parts ha).2
    | _ :: _ :: _, _ => simp [ofParts]
  exact isChoice_append hafter (.inl hbefore)

/-- **A choice is its own simple form.** -/
theorem anyOf_anyOf (h : ∀ r ∈ rs, r.IsTidy) : anyOf [anyOf rs] = anyOf rs := by
  have hbranch := of_mem_flatMap_branches h
  have hrs : anyOf rs = choice factored (rs.flatMap branches) := rfl
  have hcases : (anyOf rs).isChoice = false ∨
      rs.flatMap branches ≠ [] ∧ anyOf rs = ofBranches (rs.flatMap branches) := by
    rw [hrs]
    generalize rs.flatMap branches = rs at hbranch ⊢
    rcases choice_cases factored rs with ⟨r, rfl, hr⟩ | ⟨hlength, ⟨s, hs⟩ | ⟨hne, hrs⟩⟩
    · rw [hr]
      exact .inl (hbranch r (by simp)).2
    · rw [hs]
      rcases ofSet_cases s with ⟨cs, h⟩ | ⟨s', h⟩ <;> rw [h] <;> exact .inl rfl
    · have hmany : 1 < rs.length := by
        have := List.length_pos_iff.mpr hne
        omega
      rw [hrs]
      exact (isChoice_factored hmany fun r hr => (hbranch r hr).1).symm.imp_right fun h => ⟨hne, h⟩
  rcases hcases with hchoice | ⟨hne, hbranches⟩
  · exact anyOf_singleton hchoice
  · conv_lhs => rw [hbranches]
    rw [anyOf, List.flatMap_singleton, branches_ofBranches hne fun r hr => (hbranch r hr).2, hrs]

/-! ## Repetitions -/

theorem isTidy_repeated {least : Nat} {most : Option Nat} (hr : r.IsTidy)
    (h : ∀ m ∈ most, least ≤ m) : (r.repeated least most).IsTidy := by
  have hroom : ∀ m ∈ (if r.maxLength == some 0 then some (most.elim 1 (min · 1)) else most),
      (if r.maxLength == some 0 then min least 1 else least) ≤ m := by
    split
    · intro m hm
      obtain rfl := Option.some.inj hm
      cases most with
      | none => exact Nat.min_le_right _ _
      | some m =>
        have := h m rfl
        simp only [Option.elim_some]
        omega
    · exact h
  unfold repeated
  extract_lets once least' most'
  split
  · trivial
  · split
    · exact hr
    · exact ⟨hroom, hr⟩

end Regex

/-! ## Patterns -/

namespace Pattern

open Regex

/-- Whether no repetition of a pattern has to take more rounds than it may. -/
def Ast.IsBounded : Ast → Prop
  | .repetition least most a => (∀ m ∈ most, least ≤ m) ∧ a.IsBounded
  | .group _ _ a => a.IsBounded
  | .concat a b | .alternation a b => a.IsBounded ∧ b.IsBounded
  | .empty | .literal .. | .dot | .assertion _ | .perl .. | .unicode .. | .cls .. | .flags _ => True

variable {fl fl' : Flags} {a : Ast} {rs : List Regex} {r : Regex}

theorem isTidy_of_literal? {c : Char} {byte : Bool} (h : fl.literal? c byte = some r) :
    r.IsTidy := by
  unfold Flags.literal? at h
  split at h
  · cases h
  · split at h
    · cases h
      trivial
    · split at h <;> cases h <;> exact isTidy_ofSet _

theorem isTidy_of_dot? (h : fl.dot? = some r) : r.IsTidy := by
  unfold Flags.dot? at h
  split at h
  · cases h
  · split at h
    · cases h
      trivial
    · split at h <;> cases h <;> trivial

/-- **The branches of a compiled pattern are tidy.** -/
theorem isTidy_of_compileWith (ha : a.IsBounded) (h : compileWith fl a = some (rs, fl')) :
    ∀ r ∈ rs, r.IsTidy := by
  induction a generalizing fl fl' rs with
  | empty | assertion | flags =>
    cases h
    exact List.forall_mem_singleton.mpr trivial
  | literal c byte =>
    obtain ⟨r, hr, heq⟩ := Option.map_eq_some_iff.mp h
    cases heq
    exact List.forall_mem_singleton.mpr (isTidy_of_literal? hr)
  | dot =>
    obtain ⟨r, hr, heq⟩ := Option.map_eq_some_iff.mp h
    cases heq
    exact List.forall_mem_singleton.mpr (isTidy_of_dot? hr)
  | perl | unicode | cls =>
    obtain ⟨s, -, heq⟩ := Option.map_eq_some_iff.mp h
    cases heq
    exact List.forall_mem_singleton.mpr (isTidy_ofSet s)
  | repetition least most a ih =>
    rw [compileWith] at h
    split at h
    · cases h
    · rename_i ss _ hss
      cases h
      exact List.forall_mem_singleton.mpr (isTidy_repeated (isTidy_anyOf (ih ha.2 hss)) ha.1)
  | group remembered fs a ih =>
    rw [compileWith] at h
    split at h
    · cases h
    · rename_i ss _ hss
      cases h
      have htidy := isTidy_anyOf (ih ha hss)
      refine List.forall_mem_singleton.mpr ?_
      split <;> exact htidy
  | concat a b iha ihb =>
    rw [compileWith] at h
    split at h
    · cases h
    · rename_i ss _ hss
      split at h
      · cases h
      · rename_i ts _ hts
        cases h
        exact List.forall_mem_singleton.mpr
          (isTidy_append (isTidy_anyOf (iha ha.1 hss)) (isTidy_anyOf (ihb ha.2 hts)))
  | alternation a b iha ihb =>
    rw [compileWith] at h
    split at h
    · cases h
    · rename_i ss _ hss
      split at h
      · cases h
      · rename_i ts _ hts
        cases h
        exact List.forall_mem_cons.mpr ⟨isTidy_anyOf (iha ha.1 hss), ihb ha.2 hts⟩

end Pattern

end Coordination.Text
