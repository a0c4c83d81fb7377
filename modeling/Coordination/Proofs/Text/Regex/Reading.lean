import Coordination.Proofs.Text.Regex.Forms
import Coordination.Proofs.Text.Regex.Marks

/-!
# Patterns between parentheses

A pattern that is put between an opening and a closing parenthesis, with anchors around them, is
read step by step as it is read alone, with one more group open at the bottom of the stack. This
goes on until a closing parenthesis of the pattern itself closes that group: then the rest of the
pattern stands outside of it, whatever this may mean. If this does not happen, the pattern is a
pattern on its own, and its tree stands in the group.

## Main definitions

* `Progress.inside`: a progress with one more open group at the bottom
* `Pattern.overcloses`: whether a pattern closes a group that it has not opened
* `Ast.anchored`: a tree in a group between anchors

## Main results

* `Pattern.read?_anchored`: what is read with parentheses and anchors around it
* `Pattern.isBounded_of_read?`: repetitions that are read have the room they need
-/

namespace Coordination.Text.Pattern

variable {v : Bool} {stop cs ds es rest : List Char} {c : Char} {st st' : Progress} {fuel : Nat}

/-! ## Steps -/

/-- The progress after an opening parenthesis and what follows it. -/
def Progress.begin? (st : Progress) : GroupStart → Option Progress
  | .switches fs =>
    some { st.push (.flags fs) with verbose := (fs.find? .verbose).getD st.verbose }
  | .plain fs => some (st.enter false fs)
  | .numbered => some (st.enter true [])
  | .named name =>
    if st.names.contains name then none
    else some { st.enter true [] with names := name :: st.names }

theorem Progress.step_open (st : Progress) (cs : List Char) :
    st.step '(' cs = (readGroupStart st.verbose cs).bind fun r => (st.begin? r.1).map (·, r.2) := by
  cases h : readGroupStart st.verbose cs with
  | none => simp [step, h]
  | some r =>
    obtain ⟨start, rest⟩ := r
    cases start with
    | switches | plain | numbered => simp [step, h, begin?]
    | named name => by_cases hname : name ∈ st.names <;> simp [step, h, begin?, hname]

/-- The progress after a closing parenthesis. -/
def Progress.close? (st : Progress) : Option Progress :=
  match st.outer with
  | [] => none
  | o :: outer =>
    some { st with
      verbose := o.verbose, outer := outer, branches := o.branches,
      items := .group o.remembered o.flags st.body :: o.items }

theorem Progress.step_close (st : Progress) (cs : List Char) :
    st.step ')' cs = st.close?.map (·, cs) := by
  unfold close?
  rw [step.eq_def]
  dsimp only
  cases st.outer <;> rfl

/-- The characters with a step of their own. -/
def marks : List Char := ['(', ')', '|', '[', '?', '*', '+', '\x7b', '\\', '.', '^', '$']

theorem Progress.step_of_not_mark (st : Progress) (h : c ∉ marks) (cs : List Char) :
    st.step c cs = some (st.push (.literal c false), cs) := by
  simp only [marks, List.mem_cons, List.not_mem_nil, or_false, not_or] at h
  obtain ⟨h₁, h₂, h₃, h₄, h₅, h₆, h₇, h₈, h₉, h₁₀, h₁₁, h₁₂⟩ := h
  rw [step.eq_def]
  split <;> first | contradiction | rfl

theorem Progress.step_bounds (st : Progress) (cs : List Char) :
    st.step '\x7b' cs = (readBounds st.verbose cs).bind fun r =>
      (st.repeatLast r.1.1 r.1.2).map fun st' => (st', skipLazy (skip st.verbose r.2)) := by
  cases h : readBounds st.verbose cs <;> simp [step, h]

/-- **A step reads alike**, but for an escape. -/
theorem Progress.reads_step (st : Progress) (hc : c ≠ '\\') : Reads ['$'] (st.step c) := by
  have hrepeat : ∀ least most, Reads ['$'] fun cs =>
      (st.repeatLast least most).map fun st' => (st', skipLazy cs) := fun least most =>
    (Reads.option (st.repeatLast least most) id).skipLazy
  by_cases hmark : c ∈ marks
  · simp only [marks, List.mem_cons, List.not_mem_nil, or_false] at hmark
    rcases hmark with rfl | rfl | rfl | rfl | rfl | rfl | rfl | rfl | rfl | rfl | rfl | rfl
    · exact ((reads_readGroupStart st.verbose).bind fun start =>
        Reads.option (st.begin? start) id).congr st.step_open
    · exact (Reads.option st.close? id).congr st.step_close
    · exact .pure _
    · exact (reads_readClass st.verbose).map st.push
    · exact hrepeat 0 (some 1)
    · exact hrepeat 0 none
    · exact hrepeat 1 none
    · exact ((reads_readBounds st.verbose).bind fun bounds =>
        ((Reads.option (st.repeatLast bounds.1 bounds.2) id).skipLazy).skip st.verbose).congr
          st.step_bounds
    · exact absurd rfl hc
    · exact .pure _
    · exact .pure _
    · exact .pure _
  · exact (Reads.pure _).congr (st.step_of_not_mark hmark)

/-- What a step leaves. -/
theorem Progress.step_suffix (h : st.step c cs = some (st', rest)) : rest <:+ cs := by
  by_cases hc : c = '\\'
  · subst hc
    obtain ⟨⟨x, rest'⟩, hx, heq⟩ := Option.map_eq_some_iff.mp h
    cases heq
    cases cs with
    | nil => cases hx
    | cons c cs => exact (readEscape_suffix hx).trans (List.suffix_cons c cs)
  · exact (st.reads_step hc).suffix h

/-! ## One more group -/

/-- A progress with one more group open, at the bottom of the stack. -/
def Progress.inside (st : Progress) (o : OpenGroup) : Progress :=
  { st with outer := st.outer ++ [o] }

variable {o : OpenGroup}

theorem Progress.repeatLast_inside (st : Progress) (o : OpenGroup) (least : Nat)
    (most : Option Nat) :
    (st.inside o).repeatLast least most = (st.repeatLast least most).map (·.inside o) := by
  unfold repeatLast inside
  dsimp only
  split
  · split <;> rfl
  · rfl

theorem Progress.begin?_inside (st : Progress) (o : OpenGroup) (start : GroupStart) :
    (st.inside o).begin? start = (st.begin? start).map (·.inside o) := by
  cases start with
  | switches | plain | numbered => rfl
  | named name => by_cases hname : name ∈ st.names <;> simp [begin?, inside, enter, hname]

theorem Progress.close?_inside (st : Progress) (o : OpenGroup) (h : st.outer ≠ []) :
    (st.inside o).close? = st.close?.map (·.inside o) := by
  unfold close? inside
  cases houter : st.outer with
  | nil => exact absurd houter h
  | cons o' outer => rfl

/-- **A step inside of one more group is the step without it**, unless it closes that group. -/
theorem Progress.step_inside (st : Progress) (o : OpenGroup) (h : c = ')' → st.outer ≠ [])
    (cs : List Char) :
    (st.inside o).step c cs = (st.step c cs).map fun r => (r.1.inside o, r.2) := by
  have hrepeat : ∀ least most (rest : List Char),
      ((st.inside o).repeatLast least most).map (·, rest) =
        ((st.repeatLast least most).map (·, rest)).map fun r => (r.1.inside o, r.2) := by
    intro least most rest
    rw [repeatLast_inside]
    cases st.repeatLast least most <;> rfl
  by_cases hmark : c ∈ marks
  · simp only [marks, List.mem_cons, List.not_mem_nil, or_false] at hmark
    rcases hmark with rfl | rfl | rfl | rfl | rfl | rfl | rfl | rfl | rfl | rfl | rfl | rfl
    · rw [step_open, step_open]
      change (readGroupStart st.verbose cs).bind _ = _
      cases readGroupStart st.verbose cs with
      | none => rfl
      | some r =>
        dsimp only [Option.bind_some]
        rw [begin?_inside]
        cases st.begin? r.1 <;> rfl
    · rw [step_close, step_close, close?_inside st o (h rfl)]
      cases st.close? <;> rfl
    · rfl
    · change (readClass st.verbose cs).map _ = ((readClass st.verbose cs).map _).map _
      cases readClass st.verbose cs <;> rfl
    · exact hrepeat 0 (some 1) (skipLazy cs)
    · exact hrepeat 0 none (skipLazy cs)
    · exact hrepeat 1 none (skipLazy cs)
    · rw [step_bounds, step_bounds]
      change (readBounds st.verbose cs).bind _ = _
      cases readBounds st.verbose cs with
      | none => rfl
      | some r => exact hrepeat r.1.1 r.1.2 _
    · change (readEscape st.verbose cs).map _ = ((readEscape st.verbose cs).map _).map _
      cases readEscape st.verbose cs <;> rfl
    · rfl
    · rfl
    · rfl
  · rw [step_of_not_mark _ hmark, step_of_not_mark _ hmark]
    rfl

/-! ## Runs -/

/-- Whether a progress comes to a closing parenthesis where no group is open. -/
def Progress.overcloses : (fuel : Nat) → Progress → List Char → Bool
  | 0, _, _ => false
  | fuel + 1, st, cs =>
    match skip st.verbose cs with
    | [] => false
    | c :: rest =>
      (c == ')' && st.outer.isEmpty) ||
        match st.step c rest with
        | none => false
        | some (st', rest') => overcloses fuel st' rest'

/-- **Whether a pattern closes a group that it has not opened.** -/
def overcloses (pattern : List Char) : Bool :=
  Progress.overcloses (pattern.length + 1) ⟨false, [], [], [], []⟩ pattern

theorem Progress.run_succ (fuel : Nat) (st : Progress) (cs : List Char) :
    run (fuel + 1) st cs =
      match skip st.verbose cs with
      | [] => if st.outer.isEmpty then some st.body else none
      | c :: rest => (st.step c rest).bind fun r => run fuel r.1 r.2 := by
  rw [run]
  cases skip st.verbose cs with
  | nil => rfl
  | cons c rest =>
    dsimp only
    cases st.step c rest <;> rfl

/-- What closes a group that it has not opened cannot be read. -/
theorem Progress.run_eq_none_of_overcloses (h : overcloses fuel st cs = true) :
    run fuel st cs = none := by
  induction fuel generalizing st cs with
  | zero => cases h
  | succ fuel ih =>
    rw [overcloses] at h
    rw [run_succ]
    cases hcs : skip st.verbose cs with
    | nil => rw [hcs] at h; cases h
    | cons c rest =>
      rw [hcs] at h
      rcases Bool.or_eq_true_iff.mp h with h | h
      · rw [Bool.and_eq_true, beq_iff_eq, List.isEmpty_iff] at h
        obtain ⟨rfl, houter⟩ := h
        dsimp only
        rw [step_close, close?, houter]
        rfl
      · refine Option.bind_eq_none_iff.mpr fun r hr => ?_
        rw [hr] at h
        exact ih h

/-- With a group open, the end of the closing cannot be the end of a pattern. -/
theorem Progress.run_eq_none_of_suffix (houter : st.outer ≠ []) (h : cs <:+ ['$']) :
    run fuel st cs = none := by
  have hnil : ∀ fuel (st : Progress), st.outer ≠ [] → run fuel st [] = none := by
    intro fuel st houter
    cases fuel with
    | zero => rfl
    | succ fuel =>
      rw [run_succ, skip_nil]
      exact if_neg (by simpa using houter)
  rcases List.suffix_cons_iff.mp h with rfl | h
  · cases fuel with
    | zero => rfl
    | succ fuel =>
      rw [run_succ, tight_of_not_blank (by decide) (by decide)]
      exact hnil fuel (st.push (.assertion .lineEnd)) houter
  · rw [List.suffix_nil.mp h]
    exact hnil fuel st houter

/-- A word boundary that is stuck before a brace cannot be gone on from. -/
theorem Progress.run_eq_none_of_stuck (h : skip st.verbose cs = closing) :
    run fuel st ('\x7b' :: cs) = none := by
  cases fuel with
  | zero => rfl
  | succ fuel =>
    rw [run_succ, tight_of_not_blank (by decide) (by decide)]
    dsimp only
    rw [step_bounds, readBounds_eq_none h]
    rfl

/-- The group that a pattern with anchors around it stands in. -/
def anchorGroup : OpenGroup := ⟨false, false, [], [], [.assertion .lineStart]⟩

/-- **A tree in a group between anchors.** -/
def Ast.anchored (a : Ast) : Ast :=
  .concat (.assertion .lineStart) (.concat (.group false [] a) (.assertion .lineEnd))

/-- The closing ends the group of the anchors and the pattern. -/
theorem Progress.run_closing {a : Ast} (houter : st.outer = [])
    (h : run fuel (st.inside anchorGroup) closing = some a) : a = st.body.anchored := by
  have hclose : (st.inside anchorGroup).step ')' ['$'] =
      some (⟨false, st.names, [], [], [.group false [] st.body, .assertion .lineStart]⟩,
        ['$']) := by
    rw [step_close, close?, inside, houter]
    rfl
  cases fuel with
  | zero => cases h
  | succ fuel =>
    rw [run_succ, closing, tight_closing] at h
    dsimp only at h
    rw [hclose] at h
    -- the anchor at the end takes one more step, and the end of the pattern another one
    rcases fuel with _ | _ | fuel
    · cases h
    · cases h
    · cases h
      rfl

/-- A step in front of the closing, after which a pattern in one more group can be read to its end,
leaves the closing in its place. -/
theorem Progress.step_alike {a : Ast} (hstep : st.step c (es ++ closing) = some (st', rest))
    (hrun : run fuel (st'.inside o) rest = some a) :
    ∃ r, Closed rest r ∧ st.step c es = some (st', r) := by
  have hopen : (st'.inside o).outer ≠ [] := by simp [inside]
  by_cases hc : c = '\\'
  · subst hc
    obtain ⟨⟨x, rest'⟩, hread, heq⟩ := Option.map_eq_some_iff.mp hstep
    cases heq
    rcases readEscape_alike (.here es) hread with ⟨r, hr, halone⟩ | hpast | ⟨-, r, rfl, hskip⟩
    · exact ⟨r, hr, Option.map_eq_some_iff.mpr ⟨_, halone, rfl⟩⟩
    · rw [run_eq_none_of_suffix hopen hpast] at hrun
      cases hrun
    · have hnone : run fuel ((st.push x.toAst).inside o) ('\x7b' :: r) = none :=
        run_eq_none_of_stuck hskip
      rw [hnone] at hrun
      cases hrun
  · rcases (st.reads_step hc).alike (.here es) _ _ hstep with halike | hpast
    · exact halike
    · rw [run_eq_none_of_suffix hopen hpast] at hrun
      cases hrun

/-- **What is read in the group of the anchors is read alone**, unless the group is closed. -/
theorem Progress.run_inside {fuel' : Nat} {a : Ast} (hclosed : Closed ds es)
    (hfuel : es.length < fuel') (h : run fuel (st.inside anchorGroup) ds = some a) :
    overcloses fuel' st es = true ∨ ∃ b, run fuel' st es = some b ∧ a = b.anchored := by
  -- induction on the run with the closing; the run without has fuel for each of its characters
  induction fuel generalizing st ds es fuel' with
  | zero => cases h
  | succ fuel ih =>
    obtain ⟨fuel', rfl⟩ : ∃ n, fuel' = n + 1 := ⟨fuel' - 1, by omega⟩
    have hopen : ∀ st : Progress, (st.inside anchorGroup).outer ≠ [] := by simp [inside]
    have hskipped := hclosed.skip st.verbose
    have hlength := length_skip_le st.verbose es
    rw [run_succ] at h
    rw [overcloses, run_succ]
    change (match skip st.verbose ds with
      | [] => _
      | c :: rest => _) = _ at h
    generalize skip st.verbose ds = ds' at hskipped h
    generalize skip st.verbose es = es' at hskipped hlength ⊢
    cases hskipped with
    | lost =>
      -- a comment has taken the closing with it, and the group stays open
      dsimp only at h
      rw [if_neg (by simpa using hopen st)] at h
      cases h
    | here =>
      cases es' with
      | nil =>
        by_cases houter : st.outer = []
        · -- the pattern is read to its end, and the closing ends the group
          have hclosing : run (fuel + 1) (st.inside anchorGroup) closing = some a := by
            rw [run_succ, closing, tight_closing]
            exact h
          exact .inr ⟨st.body, by simp [houter], run_closing houter hclosing⟩
        · -- the closing parenthesis ends a group of the pattern, and none is left for the other
          dsimp only [List.nil_append, closing] at h
          rw [step_inside st anchorGroup fun _ => houter] at h
          obtain ⟨_, hr, hrun⟩ := Option.bind_eq_some_iff.mp h
          obtain ⟨⟨st₁, rest⟩, hstep, rfl⟩ := Option.map_eq_some_iff.mp hr
          rw [run_eq_none_of_suffix (hopen st₁) (step_suffix hstep)] at hrun
          cases hrun
      | cons c es' =>
        by_cases hover : c = ')' ∧ st.outer = []
        · left
          simp [hover]
        · rw [List.cons_append] at h
          dsimp only at h ⊢
          rw [step_inside st anchorGroup fun hc houter => hover ⟨hc, houter⟩] at h
          obtain ⟨_, hr, hrun⟩ := Option.bind_eq_some_iff.mp h
          obtain ⟨⟨st₁, rest⟩, hstep, rfl⟩ := Option.map_eq_some_iff.mp hr
          obtain ⟨r, hr, halone⟩ := step_alike hstep hrun
          have hshorter := (step_suffix halone).length_le
          rw [List.length_cons] at hlength
          rw [halone]
          exact (ih hr (by omega) hrun).imp_left fun h => by simp [h]

/-- **What is read of a pattern with a group and anchors around it.** Either the pattern closes that
group, or it can be read alone, and its tree is what stands in the group. -/
theorem read?_anchored {a : Ast}
    (h : read? ('^' :: '(' :: '?' :: ':' :: (es ++ closing)) = some a) :
    overcloses es = true ∨ ∃ b, read? es = some b ∧ a = b.anchored := by
  have hstart : ∀ fuel, Progress.run (fuel + 2) ⟨false, [], [], [], []⟩
      ('^' :: '(' :: '?' :: ':' :: (es ++ closing)) =
        Progress.run fuel (Progress.inside ⟨false, [], [], [], []⟩ anchorGroup) (es ++ closing) :=
    fun fuel => rfl
  exact Progress.run_inside (.here es) (Nat.lt_succ_self _) ((hstart _).symm.trans h)

/-! ## Bounds of repetitions -/

/-- Whether no repetition that is read so far has to take more rounds than it may. -/
structure Progress.IsBounded (st : Progress) : Prop where
  items : ∀ a ∈ st.items, a.IsBounded
  branches : ∀ a ∈ st.branches, a.IsBounded
  outer : ∀ o ∈ st.outer, (∀ a ∈ o.items, a.IsBounded) ∧ ∀ a ∈ o.branches, a.IsBounded

theorem isBounded_concatenation {items : List Ast} (h : ∀ a ∈ items, a.IsBounded) :
    (concatenation items).IsBounded := by
  cases items with
  | nil => trivial
  | cons a before =>
    obtain ⟨ha, hbefore⟩ := List.forall_mem_cons.mp h
    exact List.foldlRecOn before _ ha fun acc hacc x hx => ⟨hbefore x hx, hacc⟩

theorem isBounded_alternatives {branches : List Ast} (h : ∀ a ∈ branches, a.IsBounded) :
    (alternatives branches).IsBounded := by
  cases branches with
  | nil => trivial
  | cons a before =>
    obtain ⟨ha, hbefore⟩ := List.forall_mem_cons.mp h
    exact List.foldlRecOn before _ ha fun acc hacc x hx => ⟨hbefore x hx, hacc⟩

namespace Progress.IsBounded

variable {a : Ast}

theorem body (h : st.IsBounded) : st.body.IsBounded :=
  isBounded_alternatives (List.forall_mem_cons.mpr ⟨isBounded_concatenation h.items, h.branches⟩)

theorem push (h : st.IsBounded) (ha : a.IsBounded) : (st.push a).IsBounded :=
  { h with items := List.forall_mem_cons.mpr ⟨ha, h.items⟩ }

theorem enter (h : st.IsBounded) (remembered : Bool) (fs : FlagSetting) :
    (st.enter remembered fs).IsBounded where
  items := nofun
  branches := nofun
  outer := List.forall_mem_cons.mpr ⟨⟨h.items, h.branches⟩, h.outer⟩

theorem repeatLast (h : st.IsBounded) {least : Nat} {most : Option Nat}
    (hbounds : ∀ m ∈ most, least ≤ m) (hst' : st.repeatLast least most = some st') :
    st'.IsBounded := by
  unfold Progress.repeatLast at hst'
  split at hst'
  · rename_i a items hitems
    obtain ⟨ha, hbefore⟩ := List.forall_mem_cons.mp (hitems ▸ h.items)
    split at hst'
    · cases hst'
      exact { h with items := List.forall_mem_cons.mpr ⟨⟨hbounds, ha⟩, hbefore⟩ }
    · cases hst'
  · cases hst'

theorem begin? (h : st.IsBounded) {start : GroupStart} (hst' : st.begin? start = some st') :
    st'.IsBounded := by
  cases start with
  | switches fs =>
    cases hst'
    exact { h.push (a := .flags fs) trivial with }
  | plain fs =>
    cases hst'
    exact h.enter false fs
  | numbered =>
    cases hst'
    exact h.enter true []
  | named name =>
    unfold Progress.begin? at hst'
    dsimp only at hst'
    split at hst'
    · cases hst'
    · cases hst'
      exact { h.enter true [] with }

theorem close? (h : st.IsBounded) (hst' : st.close? = some st') : st'.IsBounded := by
  unfold Progress.close? at hst'
  split at hst'
  · cases hst'
  · rename_i o outer houter
    cases hst'
    obtain ⟨⟨hitems, hbranches⟩, hrest⟩ := List.forall_mem_cons.mp (houter ▸ h.outer)
    exact ⟨List.forall_mem_cons.mpr ⟨h.body, hitems⟩, hbranches, hrest⟩

/-- A step reads no bounds that leave no room. -/
theorem step (h : st.IsBounded) (hstep : st.step c cs = some (st', rest)) : st'.IsBounded := by
  have hrepeat : ∀ {least most} {rest' : List Char}, (∀ m ∈ most, least ≤ m) →
      (st.repeatLast least most).map (·, rest') = some (st', rest) → st'.IsBounded := by
    intro least most rest' hbounds hst'
    obtain ⟨st₁, hst₁, heq⟩ := Option.map_eq_some_iff.mp hst'
    cases heq
    exact h.repeatLast hbounds hst₁
  by_cases hmark : c ∈ marks
  · simp only [marks, List.mem_cons, List.not_mem_nil, or_false] at hmark
    rcases hmark with rfl | rfl | rfl | rfl | rfl | rfl | rfl | rfl | rfl | rfl | rfl | rfl
    · rw [step_open] at hstep
      obtain ⟨r, -, hst'⟩ := Option.bind_eq_some_iff.mp hstep
      obtain ⟨st₁, hst₁, heq⟩ := Option.map_eq_some_iff.mp hst'
      cases heq
      exact h.begin? hst₁
    · rw [step_close] at hstep
      obtain ⟨st₁, hst₁, heq⟩ := Option.map_eq_some_iff.mp hstep
      cases heq
      exact h.close? hst₁
    · cases hstep
      exact ⟨nofun, List.forall_mem_cons.mpr ⟨isBounded_concatenation h.items, h.branches⟩, h.outer⟩
    · obtain ⟨⟨a, rest'⟩, hclass, heq⟩ := Option.map_eq_some_iff.mp hstep
      cases heq
      obtain ⟨negated, s, rfl⟩ := readClass_eq_cls hclass
      exact h.push trivial
    · exact hrepeat (by simp) hstep
    · exact hrepeat (by simp) hstep
    · exact hrepeat (by simp) hstep
    · rw [step_bounds] at hstep
      obtain ⟨⟨⟨least, most⟩, rest'⟩, hbounds, hst'⟩ := Option.bind_eq_some_iff.mp hstep
      exact hrepeat (readBounds_le hbounds) hst'
    · obtain ⟨⟨x, rest'⟩, -, heq⟩ := Option.map_eq_some_iff.mp hstep
      cases heq
      refine h.push ?_
      cases x <;> trivial
    · cases hstep
      exact h.push trivial
    · cases hstep
      exact h.push trivial
    · cases hstep
      exact h.push trivial
  · rw [step_of_not_mark st hmark] at hstep
    cases hstep
    exact h.push trivial

theorem run (h : st.IsBounded) (hrun : Progress.run fuel st cs = some a) : a.IsBounded := by
  induction fuel generalizing st cs with
  | zero => cases hrun
  | succ fuel ih =>
    rw [run_succ] at hrun
    split at hrun
    · split at hrun
      · cases hrun
        exact h.body
      · cases hrun
    · obtain ⟨⟨st', rest'⟩, hstep, hrest⟩ := Option.bind_eq_some_iff.mp hrun
      exact ih (h.step hstep) hrest

end Progress.IsBounded

/-- **No repetition that is read has to take more rounds than it may.** -/
theorem isBounded_of_read? {a : Ast} (h : read? cs = some a) : a.IsBounded :=
  have hstart : Progress.IsBounded ⟨false, [], [], [], []⟩ := ⟨by simp, by simp, by simp⟩
  hstart.run h

end Coordination.Text.Pattern
