import Coordination.Proofs.Text.Regex.Reading
import Coordination.Schema.Matcher

/-!
# Patterns and whole paths

The matcher of a pattern searches a path for the pattern in a group, with anchors around it. Where
the pattern closes no group that it has not opened, it has an expression of its own, and the matcher
covers the paths that this expression matches from their start to their end. Where it does close
one, the group ends inside of the pattern, and each anchor may hold for one branch of it only. Such
a pattern has no expression of its own, and yet it can be accepted.

## Main definitions

* `Pattern.expression?`: the expression of a pattern alone
* `Regex.MatchesWhole`: an expression matches a text from its start to its end

## Main results

* `Matcher.covers_whole_iff`: for which of the accepted patterns a path is covered just when the
  pattern matches the whole of it
-/

namespace Coordination

namespace Text

/-- **An expression matches a text from its start to its end.** -/
def Regex.MatchesWhole (r : Regex) (text : String) : Prop :=
  r.Matches text.toList.toArray 0 text.toList.toArray.size

/-- **The expression of a pattern alone**, whatever room it takes; none when the pattern is
malformed or nested too deeply. -/
def Pattern.expression? (pattern : String) : Option Regex :=
  (read? pattern.toList).bind fun a =>
    if maxDepth < a.depth .none then none
    else (compileWith .initial a).map fun r => .anyOf r.1

open Pattern Regex

variable {pattern : String} {r : Regex} {fl : Flags} {rs : List Regex} {a : Ast}

/-- A pattern has an expression if it can be read, is not nested too deeply and compiles. -/
theorem Pattern.expression?_eq_some_iff :
    expression? pattern = some r ↔
      ∃ a, read? pattern.toList = some a ∧ a.depth .none ≤ maxDepth ∧
        ∃ rs fl, compileWith .initial a = some (rs, fl) ∧ anyOf rs = r := by
  unfold expression?
  rw [Option.bind_eq_some_iff]
  refine exists_congr fun a => and_congr_right fun _ => ?_
  split
  · rename_i hdepth
    exact ⟨nofun, fun h => absurd h.1 (Nat.not_le.mpr hdepth)⟩
  · rename_i hdepth
    simp [Nat.not_lt.mp hdepth]

/-- A pattern is compiled if it has an expression that is not too large. -/
theorem Regex.ofPattern?_eq (pattern : String) :
    ofPattern? pattern = (expression? pattern).filter (·.fits) := by
  unfold ofPattern? expression?
  cases read? pattern.toList with
  | none => rfl
  | some a =>
    dsimp only [Option.bind_some]
    unfold compile?
    split
    · rfl
    · cases compileWith .initial a with
      | none => rfl
      | some r => rfl

theorem Pattern.isTidy_of_expression? (h : expression? pattern = some r) : r.IsTidy := by
  obtain ⟨a, hread, -, rs, fl, hcompile, rfl⟩ := expression?_eq_some_iff.mp h
  exact isTidy_anyOf (isTidy_of_compileWith (isBounded_of_read? hread) hcompile)

/-! ## Anchors -/

/-- An expression that has to stand between the start and the end of a text. -/
def Regex.anchored (r : Regex) : Regex :=
  (Regex.look .textStart).append (r.append (.look .textEnd))

theorem Look.holdsAt_textStart_iff {t : Array Char} {i : Nat} (hi : i ≤ t.size) :
    Look.textStart.holdsAt t i = true ↔ i = 0 := by
  cases i with
  | zero => simp [Look.holdsAt, Look.holdsBetween]
  | succ i => simp [Look.holdsAt, Look.holdsBetween, Nat.not_le.mpr (Nat.lt_of_succ_le hi)]

theorem Look.holdsAt_textEnd_iff {t : Array Char} {i : Nat} (hi : i ≤ t.size) :
    Look.textEnd.holdsAt t i = true ↔ i = t.size := by
  simp only [Look.holdsAt, Look.holdsBetween, Option.isNone_iff_eq_none, Array.getElem?_eq_none_iff]
  omega

/-- What has to stand between the start and the end of a text matches the whole of it. -/
theorem Regex.search_anchored_iff (hr : r.IsTidy) (text : String) :
    r.anchored.search text = true ↔ r.MatchesWhole text := by
  have htidy : r.anchored.IsTidy := isTidy_append trivial (isTidy_append hr trivial)
  rw [search_iff htidy.isBounded, MatchesWhole]
  generalize text.toList.toArray = t
  simp only [anchored, matches_append_iff, matches_look_iff]
  constructor
  · rintro ⟨i, j, _, ⟨hi, hstart, rfl⟩, _, hmatch, hj, hend, rfl⟩
    rw [Look.holdsAt_textStart_iff hi] at hstart
    rw [Look.holdsAt_textEnd_iff hj] at hend
    rwa [hstart, hend] at hmatch
  · intro h
    exact ⟨0, t.size, 0, ⟨Nat.zero_le _, (Look.holdsAt_textStart_iff (Nat.zero_le _)).mpr rfl, rfl⟩,
      t.size, h, Nat.le_refl _, (Look.holdsAt_textEnd_iff (Nat.le_refl _)).mpr rfl, rfl⟩

/-- A tree in a group between anchors compiles to the anchored expression of the tree. -/
theorem Pattern.compileWith_anchored (ha : a.IsBounded)
    (h : compileWith .initial a.anchored = some (rs, fl)) :
    ∃ ss fl', compileWith .initial a = some (ss, fl') ∧ anyOf rs = (anyOf ss).anchored := by
  have hswitches : Flags.initial.set [] = .initial := rfl
  simp only [Ast.anchored, compileWith, hswitches] at h
  cases hss : compileWith .initial a with
  | none =>
    rw [hss] at h
    cases h
  | some r =>
    obtain ⟨ss, fl'⟩ := r
    rw [hss] at h
    cases h
    refine ⟨ss, fl', rfl, ?_⟩
    have hlook : ∀ l, anyOf [.look l] = .look l := fun l => anyOf_singleton rfl
    have hend : (append (anyOf ss) (.look .textEnd)).isChoice = false :=
      isChoice_append (by simp) (.inr rfl)
    have hanchored : (anyOf ss).anchored.isChoice = false :=
      isChoice_append (append_ne_empty (by simp)) (.inl (by simp))
    -- the group is a choice of its own, and not one of the branches of a choice around it
    have hbranches : anyOf [anyOf ss] = anyOf ss := anyOf_anyOf (isTidy_of_compileWith ha hss)
    simp only [Assertion.look, Flags.initial, Bool.not_false, if_true, Bool.false_eq_true, if_false,
      hlook, hbranches]
    rw [anyOf_singleton hend, ← Regex.anchored, anyOf_singleton hanchored]

/-- The group and the anchors nest a pattern more deeply. -/
theorem Pattern.depth_anchored (a : Ast) : a.anchored.depth .none = a.depth .none + 2 := by
  simp [Ast.anchored, Ast.depth]

/-- **A pattern that is accepted with anchors around it** closes a group that it has not opened, or
it has an expression of its own, which is anchored. -/
theorem Pattern.expression?_anchored (h : expression? (Matcher.anchored pattern) = some r) :
    overcloses pattern.toList = true ∨ ∃ r', expression? pattern = some r' ∧ r = r'.anchored := by
  obtain ⟨a', hread', hdepth', rs, fl, hcompile, rfl⟩ := expression?_eq_some_iff.mp h
  have htext : (Matcher.anchored pattern).toList =
      '^' :: '(' :: '?' :: ':' :: (pattern.toList ++ closing) := by
    simp [Matcher.anchored, closing]
  rw [htext] at hread'
  refine (read?_anchored hread').imp_right ?_
  rintro ⟨a, hread, rfl⟩
  -- alone, the pattern is nested less deeply, and so it keeps to the limit
  rw [depth_anchored] at hdepth'
  obtain ⟨ss, fl', hss, hanchored⟩ := compileWith_anchored (isBounded_of_read? hread) hcompile
  exact ⟨anyOf ss, expression?_eq_some_iff.mpr ⟨a, hread, by omega, ss, fl', hss, rfl⟩, hanchored⟩

end Text

namespace Matcher

open Text

variable {pattern : String} {why : String → String} {m : Matcher}

theorem ofPattern_eq_ok_iff :
    ofPattern pattern why = .ok m ↔
      ∃ r, Regex.ofPattern? (anchored pattern) = some r ∧ m = .pattern r := by
  unfold ofPattern
  cases Regex.ofPattern? (anchored pattern) with
  | none => simp
  | some r => simp [eq_comm]

/-- **The accepted patterns for which only whole matches count.** An accepted pattern has an
expression of its own, such that the matcher covers the paths that it matches from their start to
their end, if and only if it closes no group that it has not opened. -/
theorem covers_whole_iff (h : ofPattern pattern why = .ok m) :
    (∃ r, Pattern.expression? pattern = some r ∧ ∀ p, m.covers p = true ↔ r.MatchesWhole p) ↔
      Pattern.overcloses pattern.toList = false := by
  constructor
  · rintro ⟨r, hr, -⟩
    obtain ⟨a, hread, -⟩ := Pattern.expression?_eq_some_iff.mp hr
    by_contra hover
    rw [Bool.not_eq_false] at hover
    rw [Pattern.read?, Pattern.Progress.run_eq_none_of_overcloses hover] at hread
    cases hread
  · intro hover
    obtain ⟨r, hr, rfl⟩ := ofPattern_eq_ok_iff.mp h
    rw [Regex.ofPattern?_eq] at hr
    obtain ⟨hr, -⟩ := Option.filter_eq_some_iff.mp hr
    rcases Pattern.expression?_anchored hr with hover' | ⟨r', hr', rfl⟩
    · rw [hover] at hover'
      cases hover'
    · exact ⟨r', hr', Regex.search_anchored_iff (Pattern.isTidy_of_expression? hr')⟩

theorem covers_whole_iff_of_optionalEnd :
    ∃ m r, ofPattern "/c(fg)?" = .ok m ∧ Pattern.expression? "/c(fg)?" = some r ∧
      (∀ p, m.covers p = true ↔ r.MatchesWhole p) ∧
      r.MatchesWhole "/cfg" ∧ ¬ r.MatchesWhole "/c/fg" := by
  have hsome : (Regex.ofPattern? (anchored "/c(fg)?")).isSome := by decide +kernel
  have hfound : (Regex.ofPattern? (anchored "/c(fg)?")).any (·.search "/cfg") := by decide +kernel
  have hmissed : ¬ (Regex.ofPattern? (anchored "/c(fg)?")).any (·.search "/c/fg") := by
    decide +kernel
  obtain ⟨m, hm⟩ := Option.isSome_iff_exists.mp hsome
  have hok : ofPattern "/c(fg)?" = .ok (.pattern m) := ofPattern_eq_ok_iff.mpr ⟨m, hm, rfl⟩
  obtain ⟨r, hr, hcovers⟩ := (covers_whole_iff hok).mpr (by decide +kernel)
  rw [hm] at hfound hmissed
  exact ⟨.pattern m, r, hok, hr, hcovers, (hcovers "/cfg").mp hfound,
    fun h => hmissed ((hcovers "/c/fg").mpr h)⟩

/-- A pattern of two branches that closes the group of the anchors between them: it is accepted, it
has no expression of its own, and the first branch is found where a path only starts with it. -/
theorem covers_start_of_overclosing :
    ∃ m, ofPattern "/a)|(?:b" = .ok m ∧ Pattern.expression? "/a)|(?:b" = none ∧
      m.covers "/a" = true ∧ m.covers "/a/c" = true := by
  have hsome : (Regex.ofPattern? (anchored "/a)|(?:b")).isSome := by decide +kernel
  have hfound : (Regex.ofPattern? (anchored "/a)|(?:b")).any fun r =>
      r.search "/a" && r.search "/a/c" := by
    decide +kernel
  obtain ⟨r, hr⟩ := Option.isSome_iff_exists.mp hsome
  rw [hr] at hfound
  obtain ⟨hwhole, hstart⟩ := Bool.and_eq_true_iff.mp hfound
  exact ⟨.pattern r, ofPattern_eq_ok_iff.mpr ⟨r, hr, rfl⟩, by decide +kernel, hwhole, hstart⟩

end Matcher

end Coordination
