import Coordination.Proofs.Text.Regex.Items

/-!
# Classes before a closing parenthesis

A class that is read with the closing behind it ends before the closing, or nowhere: only a bracket
ends a class, and the closing has none. So a class is read as it is read alone.

## Main results

* `Pattern.readClassFrom_eq_none`: no class ends in the closing
* `Pattern.reads_readClass`: a class with the closing behind it is the class alone
-/

namespace Coordination.Text.Pattern

variable {α β : Type} {v : Bool} {stop cs ds es rest : List Char} {c : Char} {x : Escaped}
  {s : ClassSet} {o : OpenClass} {outer : List OpenClass} {fuel : Nat}

/-- What follows a reader can be read too, if it refuses what is left of the closing. -/
theorem Alike.bind_refusing {closed alone : Option (α × List Char)} {g : α → Reader β}
    (h : Alike closing closed alone) (hg : ∀ x, Reads stop (g x))
    (hrefuses : ∀ x rest, rest <:+ closing → g x rest = Option.none) :
    Alike stop (closed.bind fun r => g r.1 r.2) (alone.bind fun r => g r.1 r.2) := by
  intro y rest hclosed
  obtain ⟨⟨x, mid⟩, hmid, hy⟩ := Option.bind_eq_some_iff.mp hclosed
  rcases h x mid hmid with ⟨r, hr, halone⟩ | hpast
  · rw [halone]
    exact (hg x).alike hr y rest hy
  · rw [hrefuses x mid hpast] at hy
    cases hy

theorem dollar_suffix_closing : ['$'] <:+ closing := ⟨[')'], rfl⟩

/-! ## ASCII classes -/

/-- Where a mark is looked for that the closing does not hold, the closing stays behind. -/
theorem dropWhile_closed (p : Char → Bool) (hp : ∀ c ∈ closing, p c = true) (es : List Char) :
    es.dropWhile p = [] ∧ (es ++ closing).dropWhile p = [] ∨
      (es ++ closing).dropWhile p = es.dropWhile p ++ closing ∧ es.dropWhile p ≠ [] ∧
        (es ++ closing).takeWhile p = es.takeWhile p := by
  induction es with
  | nil =>
    simp only [closing, List.forall_mem_cons] at hp
    exact .inl ⟨rfl, by simp [closing, hp]⟩
  | cons c es ih =>
    by_cases hc : p c = true
    · simpa only [List.cons_append, List.dropWhile_cons_of_pos hc, List.takeWhile_cons_of_pos hc,
        List.cons.injEq, true_and] using ih
    · simp [List.dropWhile_cons_of_neg hc, List.takeWhile_cons_of_neg hc]

/-- What two readers do alike that do not read over the closing. -/
inductive Same : Option (α × List Char) → Option (α × List Char) → Prop
  | none : Same none none
  | some (x : α) {ds es : List Char} (h : Closed ds es) : Same (some (x, ds)) (some (x, es))

/-- An ASCII class is there with the closing just if it is there without. -/
theorem same_readAscii? (h : Closed ds es) : Same (readAscii? ds) (readAscii? es) := by
  cases h with
  | lost => exact .none
  | here =>
    cases es with
    | nil => exact .none
    | cons c es =>
      by_cases hc : c = ':'
      · subst hc
        have hnegated : ((es ++ closing).head? == some '^') = (es.head? == some '^') := by
          cases es <;> rfl
        have hname : (if es.head? == some '^' then (es ++ closing).drop 1 else es ++ closing) =
            (if es.head? == some '^' then es.drop 1 else es) ++ closing := by
          split
          · cases es with
            | nil => contradiction
            | cons c es => rfl
          · rfl
        rw [List.cons_append, readAscii?, readAscii?, hnegated, hname]
        generalize (if es.head? == some '^' then es.drop 1 else es) = name
        -- the name ends at a colon, and the closing has none
        rcases dropWhile_closed (fun c => decide (c ≠ ':')) (by simp [closing]) name with
          ⟨hes, hds⟩ | ⟨hds, -, htake⟩
        · rw [hes, hds]
          exact .none
        · rw [hds, htake]
          generalize name.dropWhile (fun c => decide (c ≠ ':')) = tail
          have htail := Closed.here tail
          split
          · rename_i rest heq
            rw [heq] at htail
            obtain ⟨tail', rfl, htail'⟩ := htail.uncons (by decide)
            obtain ⟨tail'', rfl, hrest⟩ := htail'.uncons (by decide)
            generalize asciiClasses.lookup _ = found
            cases found with
            | none => exact .none
            | some k => exact .some _ hrest
          · rename_i hother
            split
            · rename_i rest
              exact absurd rfl (hother (rest ++ closing))
            · exact .none
      · have hnone : ∀ cs, readAscii? (c :: cs) = none := fun cs =>
          readAscii?.eq_2 _ (by rintro rest ⟨⟩; exact hc rfl)
        rw [List.cons_append, hnone, hnone]
        exact .none

theorem readAscii?_suffix (h : readAscii? cs = some (s, rest)) : rest <:+ cs := by
  unfold readAscii? at h
  split at h
  · rename_i cs'
    extract_lets negated name name' at h
    split at h
    · rename_i rest' heq
      obtain ⟨k, -, hk⟩ := Option.map_eq_some_iff.mp h
      cases hk
      have hname : name <:+ cs' := by
        unfold name
        split
        · exact List.drop_suffix 1 cs'
        · exact List.suffix_refl _
      have hrest : ':' :: ']' :: rest <:+ name := heq ▸ List.dropWhile_suffix _
      exact (((List.suffix_cons _ _).trans (List.suffix_cons _ _)).trans (hrest.trans hname)).trans
        (List.suffix_cons _ cs')
    · cases h
  · cases h

/-! ## The start of a class -/

theorem reads_leadingHyphens_fuel (v : Bool) (fuel : Nat) (s : ClassSet) :
    Reads ['$'] fun cs => some (leadingHyphens v fuel s cs) := by
  induction fuel generalizing s with
  | zero => exact .pure s
  | succ fuel ih =>
    refine .mark false '-' (by decide) (fun cs => rfl) (fun rest => ?_) (fun cs _ hhead => ?_)
      ((ih (s.add (.literal '-'))).skip v) (.pure s)
    · rw [leadingHyphens]
    · rw [leadingHyphens]
      rintro rest rfl
      exact hhead rfl

theorem leadingHyphens_enough (v : Bool) (fuel : Nat) (s : ClassSet) (cs : List Char)
    (h : cs.length ≤ fuel) : leadingHyphens v (fuel + 1) s cs = leadingHyphens v fuel s cs := by
  induction fuel generalizing s cs with
  | zero =>
    obtain rfl := List.length_eq_zero_iff.mp (Nat.le_zero.mp h)
    rfl
  | succ fuel ih =>
    by_cases hhead : cs.head? = some '-'
    · obtain ⟨rest, rfl⟩ := List.head?_eq_some_iff.mp hhead
      have hlength := length_skip_le v rest
      rw [List.length_cons] at h
      rw [leadingHyphens, leadingHyphens, ih _ _ (by omega)]
    · have hother : ∀ fuel, leadingHyphens v (fuel + 1) s cs = (s, cs) := fun fuel => by
        rw [leadingHyphens]
        rintro rest rfl
        exact hhead rfl
      rw [hother, hother]

theorem reads_leadingHyphens (v : Bool) (s : ClassSet) :
    Reads ['$'] fun cs => some (leadingHyphens v cs.length s cs) :=
  .ofFuel 0 (reads_leadingHyphens_fuel v · s) fun fuel cs h => by
    rw [leadingHyphens_enough v fuel s cs h]

/-- The start of a class after its hyphens. -/
def openAfter (v negated : Bool) (s : ClassSet) (cs : List Char) : Option (OpenClass × List Char) :=
  match s, cs with
  | _, [] => none
  | .empty, ']' :: rest =>
    some ({ negated, pending := none, items := .literal ']' }, skip v rest)
  | s, cs => some ({ negated, pending := none, items := s }, cs)

theorem openAfter_of_other {negated : Bool} (h : ¬ (s = .empty ∧ c = ']')) (cs : List Char) :
    openAfter v negated s (c :: cs) =
      some ({ negated, pending := none, items := s }, c :: cs) := by
  unfold openAfter
  split
  · contradiction
  · rename_i heq
    cases heq
    exact absurd ⟨rfl, rfl⟩ h
  · rfl

theorem reads_openAfter (v negated : Bool) (s : ClassSet) :
    Reads closing (openAfter v negated s) where
  suffix := by
    intro cs x rest h
    cases cs with
    | nil => cases h
    | cons c cs =>
      by_cases hc : s = .empty ∧ c = ']'
      · obtain ⟨rfl, rfl⟩ := hc
        cases h
        exact (skip_suffix v cs).trans (List.suffix_cons _ _)
      · rw [openAfter_of_other hc] at h
        cases h
        exact List.suffix_refl _
  alike := by
    intro ds es h
    cases h with
    | lost => exact .none
    | here =>
      cases es with
      | nil =>
        -- a class can begin right before the closing, but it does not end any more
        rw [List.nil_append, closing, openAfter_of_other (by simp)]
        exact .past (List.suffix_refl _)
      | cons c es =>
        by_cases hc : s = .empty ∧ c = ']'
        · obtain ⟨rfl, rfl⟩ := hc
          exact .some ((Closed.here es).skip v)
        · rw [List.cons_append, openAfter_of_other hc, openAfter_of_other hc]
          exact .some (.here (c :: es))

/-- The start of a class, after the mark of its negation. -/
theorem openClass_eq (v : Bool) (cs : List Char) :
    openClass v cs =
      if (skip v cs).head? == some '^' then
        (some (leadingHyphens v (skip v ((skip v cs).drop 1)).length .empty
          (skip v ((skip v cs).drop 1)))).bind fun r => openAfter v true r.1 r.2
      else
        (some (leadingHyphens v (skip v cs).length .empty (skip v cs))).bind fun r =>
          openAfter v false r.1 r.2 := by
  by_cases h : (skip v cs).head? == some '^'
  · simp only [openClass, h, if_true]
    rfl
  · simp only [openClass, h]
    rfl

theorem reads_openClass (v : Bool) : Reads closing (openClass v) := by
  have hafter : ∀ negated, Reads closing fun cs =>
      (some (leadingHyphens v cs.length .empty cs)).bind fun r => openAfter v negated r.1 r.2 :=
    fun negated => ((reads_leadingHyphens v .empty).mono dollar_suffix_closing).bind
      (reads_openAfter v negated)
  refine .mark v '^' (by decide) (fun cs => ?_) (fun rest => ?_) (fun cs hskip hhead => ?_)
    ((hafter true).skip v) (hafter false)
  · rw [openClass_eq, openClass_eq, skip_skip]
  · rw [openClass_eq, tight_of_not_blank (by decide) (by decide)]
    exact if_pos rfl
  · rw [openClass_eq, hskip, if_neg (by simpa using hhead)]

/-! ## Items of a class -/

theorem readClassItem_of_ne (hc : c ≠ '\\') (cs : List Char) :
    readClassItem v (c :: cs) = some (.literal c false, cs) := by
  rw [readClassItem]
  exact hc

theorem readClassItem_suffix (h : readClassItem v (c :: cs) = some (x, rest)) : rest <:+ cs := by
  by_cases hc : c = '\\'
  · subst hc
    cases cs with
    | nil => cases h
    | cons c cs => exact (readEscape_suffix h).trans (List.suffix_cons c cs)
  · rw [readClassItem_of_ne hc] at h
    cases h
    exact List.suffix_refl _

/-- A character or escape of a class reads alike, unless it is an assertion, which no class has. -/
theorem readClassItem_alike (hclosed : Closed ds es) (h : readClassItem v ds = some (x, rest)) :
    (∃ r, Closed rest r ∧ readClassItem v es = some (x, r)) ∨ rest <:+ ['$'] ∨
      ∃ a, x = .assertion a := by
  cases hclosed with
  | lost => cases h
  | here =>
    cases es with
    | nil => exact .inr (.inl (readClassItem_suffix h))
    | cons c es =>
      by_cases hc : c = '\\'
      · subst hc
        rcases readEscape_alike (.here es) h with halike | hpast | hstuck
        · exact .inl halike
        · exact .inr (.inl hpast)
        · exact .inr (.inr ⟨_, hstuck.1⟩)
      · rw [List.cons_append, readClassItem_of_ne hc] at h
        cases h
        exact .inl ⟨es, .here es, readClassItem_of_ne hc es⟩

/-- Whether a character after a hyphen makes the hyphen stand for itself. -/
def isSign (c : Option Char) : Bool := c == some ']' || c == some '-'

theorem dropWhile_append_closing (p : Char → Bool) (hp : p ')' = false) (es : List Char) :
    (es ++ closing).dropWhile p = es.dropWhile p ++ closing := by
  induction es with
  | nil => simp [closing, hp]
  | cons c es ih =>
    by_cases hc : p c = true
    · simpa only [List.cons_append, List.dropWhile_cons_of_pos hc] using ih
    · simp [List.dropWhile_cons_of_neg hc]

/-- A sign is no blank. -/
theorem isSign_head?_dropWhile (h : isSign es.head? = true) :
    isSign (es.dropWhile isBlank).head? = true := by
  cases es with
  | nil => cases h
  | cons c es =>
    have hc : isBlank c = false := by
      rcases Bool.or_eq_true_iff.mp h with h | h <;>
        (rw [beq_iff_eq, List.head?_cons, Option.some.injEq] at h; subst h; decide)
    rw [List.dropWhile_cons_of_neg (by simp [hc])]
    exact h

theorem isSign_charAfter_closed (h : Closed ds es) :
    isSign (charAfter v ds) = isSign (charAfter v es) := by
  cases h with
  | lost => rfl
  | here =>
    cases v with
    | false => cases es <;> rfl
    | true =>
      -- blanks are left out, and a comment up to its end; the closing is neither
      unfold charAfter
      rw [dropWhile_append_closing isBlank (by decide)]
      have hsign : isSign (es.dropWhile isBlank).head? = false → isSign es.head? = false :=
        fun h => Bool.eq_false_iff.mpr fun h' => by
          rw [isSign_head?_dropWhile h'] at h
          cases h
      cases hes : es.dropWhile isBlank with
      | nil => exact (hsign (by rw [hes]; rfl)).symm
      | cons c rest =>
        by_cases hc : c = '#'
        · subst hc
          simp only [List.cons_append, dropWhile_append_closing isBlank (by decide)]
          cases rest.dropWhile isBlank with
          | nil => exact (hsign (by rw [hes]; rfl)).symm
          | cons c rest => rfl
        · simp

/-- What follows the first character or escape of an item. -/
def rangeFrom (v : Bool) (first : Escaped) : List Char → Option (ClassSet × List Char)
  | [] => none
  | '-' :: rest =>
    if isSign (charAfter v rest) then first.toClass?.map fun s => (s, '-' :: rest)
    else
      match readClassItem v (skip v rest) with
      | none => none
      | some (last, rest') =>
        match first, last with
        | .literal a _, .literal b _ => if a ≤ b then some (.range a b, rest') else none
        | _, _ => none
  | rest => first.toClass?.map fun s => (s, rest)

theorem readClassRange_eq (v : Bool) (cs : List Char) :
    readClassRange v cs = (readClassItem v cs).bind fun r => rangeFrom v r.1 (skip v r.2) := by
  unfold readClassRange
  cases readClassItem v cs with
  | none => rfl
  | some r =>
    obtain ⟨first, rest⟩ := r
    dsimp only [Option.bind_some]
    unfold rangeFrom isSign
    rfl

theorem rangeFrom_assertion (v : Bool) (a : Assertion) (cs : List Char) :
    rangeFrom v (.assertion a) cs = none := by
  unfold rangeFrom
  split
  · rfl
  · split
    · rfl
    · split <;> rfl
  · rfl

theorem rangeFrom_of_ne {first : Escaped} (hc : c ≠ '-') (cs : List Char) :
    rangeFrom v first (c :: cs) = first.toClass?.map fun s => (s, c :: cs) := by
  rw [rangeFrom]
  · simp
  · rintro rest ⟨⟩
    exact hc rfl

/-- The range to its last character, after the hyphen. -/
def rangeTo (first : Escaped) (last : Escaped) (rest : List Char) : Option (ClassSet × List Char) :=
  match first, last with
  | .literal a _, .literal b _ => if a ≤ b then some (.range a b, rest) else none
  | _, _ => none

theorem reads_rangeTo (first last : Escaped) : Reads stop (rangeTo first last) := by
  unfold rangeTo
  split
  · exact .ite _ (.pure _) .none
  · exact .none

theorem rangeTo_assertion (first : Escaped) (a : Assertion) (cs : List Char) :
    rangeTo first (.assertion a) cs = none := by
  cases first <;> rfl

theorem rangeFrom_hyphen (v : Bool) (first : Escaped) (cs : List Char) :
    rangeFrom v first ('-' :: cs) =
      if isSign (charAfter v cs) then first.toClass?.map fun s => (s, '-' :: cs)
      else (readClassItem v (skip v cs)).bind fun r => rangeTo first r.1 r.2 := by
  rw [rangeFrom]
  cases readClassItem v (skip v cs) <;> rfl

theorem reads_rangeFrom (v : Bool) (first : Escaped) : Reads closing (rangeFrom v first) where
  suffix := by
    intro cs s rest h
    cases cs with
    | nil => cases h
    | cons c cs =>
      by_cases hc : c = '-'
      · subst hc
        rw [rangeFrom_hyphen] at h
        split at h
        · obtain ⟨s, -, hs⟩ := Option.map_eq_some_iff.mp h
          cases hs
          exact List.suffix_refl _
        · obtain ⟨⟨last, rest'⟩, hlast, hrest⟩ := Option.bind_eq_some_iff.mp h
          have hto : Reads [] (rangeTo first last) := reads_rangeTo first last
          have hskipped : rest' <:+ skip v cs := by
            cases hcs : skip v cs with
            | nil => rw [hcs] at hlast; cases hlast
            | cons c' cs' =>
              rw [hcs] at hlast
              exact (readClassItem_suffix hlast).trans (List.suffix_cons c' cs')
          exact ((hto.suffix hrest).trans hskipped).trans
            ((skip_suffix v cs).trans (List.suffix_cons _ cs))
      · rw [rangeFrom_of_ne hc] at h
        obtain ⟨s, -, hs⟩ := Option.map_eq_some_iff.mp h
        cases hs
        exact List.suffix_refl _
  alike := by
    intro ds es h
    cases h with
    | lost => exact .none
    | here =>
      cases es with
      | nil =>
        -- the item is the last of the pattern, so that only the closing is left
        rw [List.nil_append, closing, rangeFrom_of_ne (by decide)]
        cases first.toClass? with
        | none => exact .none
        | some s => exact .past (List.suffix_refl _)
      | cons c es =>
        have hes := (Closed.here es)
        by_cases hc : c = '-'
        · subst hc
          rw [List.cons_append, rangeFrom_hyphen, rangeFrom_hyphen, isSign_charAfter_closed hes]
          split
          · cases first.toClass? with
            | none => exact .none
            | some s => exact .some (.here ('-' :: es))
          · intro s rest h
            obtain ⟨⟨last, rest'⟩, hlast, hrest⟩ := Option.bind_eq_some_iff.mp h
            rcases readClassItem_alike (hes.skip v) hlast with ⟨r, hr, halone⟩ | hpast | ⟨a, rfl⟩
            · rw [halone]
              exact (reads_rangeTo first last).alike hr s rest hrest
            · have hto : Reads [] (rangeTo first last) := reads_rangeTo first last
              exact .inr ((hto.suffix hrest).trans (hpast.trans dollar_suffix_closing))
            · rw [rangeTo_assertion] at hrest
              cases hrest
        · rw [List.cons_append, rangeFrom_of_ne hc, rangeFrom_of_ne hc]
          cases first.toClass? with
          | none => exact .none
          | some s => exact .some (.here (c :: es))

theorem readClassRange_suffix (h : readClassRange v (c :: cs) = some (s, rest)) : rest <:+ cs := by
  rw [readClassRange_eq] at h
  obtain ⟨⟨first, rest'⟩, hfirst, hrest⟩ := Option.bind_eq_some_iff.mp h
  exact (((reads_rangeFrom v first).suffix hrest).trans (skip_suffix v rest')).trans
    (readClassItem_suffix hfirst)

/-- An item of a class reads alike. -/
theorem readClassRange_alike (h : Closed ds es) :
    Alike closing (readClassRange v ds) (readClassRange v es) := by
  intro s rest hs
  rw [readClassRange_eq] at hs ⊢
  obtain ⟨⟨first, rest'⟩, hfirst, hrest⟩ := Option.bind_eq_some_iff.mp hs
  rcases readClassItem_alike h hfirst with ⟨r, hr, halone⟩ | hpast | ⟨a, rfl⟩
  · rw [halone]
    exact (reads_rangeFrom v first).alike (hr.skip v) s rest hrest
  · exact .inr ((((reads_rangeFrom v first).suffix hrest).trans (skip_suffix v rest')).trans
      (hpast.trans dollar_suffix_closing))
  · rw [rangeFrom_assertion] at hrest
    cases hrest

/-! ## Classes -/

/-- What a step of reading a class comes to: the class, or the brackets that are open after it. -/
abbrev ClassTurn := Ast ⊕ OpenClass × List OpenClass

/-- One step of reading a class, at its first character. -/
def classStep (v : Bool) (o : OpenClass) (outer : List OpenClass) (c : Char) (cs : List Char) :
    Option (ClassTurn × List Char) :=
  if c = ']' then
    match outer with
    | [] => some (.inl (.cls o.negated o.close), cs)
    | o' :: outer' => some (.inr (o'.push (.bracketed o.negated o.close), outer'), cs)
  else if c = '[' then
    match readAscii? cs with
    | some (s, rest) => some (.inr (o.push s, outer), rest)
    | none => (openClass v cs).map fun r => (.inr (r.1, o :: outer), r.2)
  else
    match classOp? c, cs.head? == some c with
    | some op, true =>
      some (.inr ({ o with pending := some (op, o.close), items := .empty }, outer), cs.drop 1)
    | _, _ => (readClassRange v (c :: cs)).map fun r => (.inr (o.push r.1, outer), r.2)

/-- What follows a step of reading a class. -/
def classGoOn (v : Bool) (fuel : Nat) : ClassTurn → List Char → Option (Ast × List Char)
  | .inl a, cs => some (a, cs)
  | .inr (o, outer), cs => readClassFrom v fuel o outer cs

theorem readClassFrom_succ (v : Bool) (fuel : Nat) (o : OpenClass) (outer : List OpenClass)
    (cs : List Char) :
    readClassFrom v (fuel + 1) o outer cs =
      match skip v cs with
      | [] => none
      | c :: rest => (classStep v o outer c rest).bind fun r => classGoOn v fuel r.1 r.2 := by
  rw [readClassFrom]
  cases skip v cs with
  | nil => rfl
  | cons c rest =>
    change _ = (classStep v o outer c rest).bind fun r => classGoOn v fuel r.1 r.2
    unfold classStep
    split
    · contradiction
    · rename_i heq
      obtain ⟨rfl, rfl⟩ := List.cons.inj heq
      rw [if_pos rfl]
      cases outer <;> rfl
    · rename_i heq
      obtain ⟨rfl, rfl⟩ := List.cons.inj heq
      rw [if_neg (by decide), if_pos rfl]
      cases readAscii? rest with
      | some r => rfl
      | none => cases openClass v rest <;> rfl
    · rename_i hclose hopen heq
      obtain ⟨rfl, rfl⟩ := List.cons.inj heq
      rw [if_neg (by rintro rfl; exact hclose rfl), if_neg (by rintro rfl; exact hopen rfl)]
      cases classOp? c with
      | none => cases readClassRange v (c :: rest) <;> rfl
      | some op =>
        cases rest.head? == some c with
        | true => rfl
        | false => cases readClassRange v (c :: rest) <;> rfl

/-- What a step of reading a class leaves. -/
theorem classStep_suffix {y : ClassTurn} (h : classStep v o outer c cs = some (y, rest)) :
    rest <:+ cs := by
  unfold classStep at h
  split at h
  · split at h <;> cases h <;> exact List.suffix_refl _
  · split at h
    · split at h
      · rename_i s rest' hs
        cases h
        exact readAscii?_suffix hs
      · obtain ⟨r, hr, heq⟩ := Option.map_eq_some_iff.mp h
        cases heq
        exact (reads_openClass v).suffix hr
    · split at h
      · cases h
        exact List.drop_suffix 1 cs
      · obtain ⟨r, hr, heq⟩ := Option.map_eq_some_iff.mp h
        cases heq
        exact readClassRange_suffix hr

/-- A class ends at a bracket. -/
theorem classStep_eq_inl {a : Ast} (h : classStep v o outer c cs = some (.inl a, rest)) :
    c = ']' ∧ outer = [] ∧ a = .cls o.negated o.close ∧ rest = cs := by
  unfold classStep at h
  split at h
  · rename_i hc
    split at h <;> cases h
    exact ⟨hc, rfl, rfl, rfl⟩
  · split at h
    · split at h
      · cases h
      · obtain ⟨r, -, heq⟩ := Option.map_eq_some_iff.mp h
        cases heq
    · split at h
      · cases h
      · obtain ⟨r, -, heq⟩ := Option.map_eq_some_iff.mp h
        cases heq

/-- A step of reading a class does alike. -/
theorem classStep_alike (v : Bool) (o : OpenClass) (outer : List OpenClass) (c : Char)
    (es : List Char) :
    Alike closing (classStep v o outer c (es ++ closing)) (classStep v o outer c es) := by
  have hes := Closed.here es
  unfold classStep
  split
  · cases outer with
    | nil => exact .some hes
    | cons o' outer' => exact .some hes
  · split
    · have hascii := same_readAscii? hes
      generalize readAscii? (es ++ closing) = closed at hascii ⊢
      generalize readAscii? es = alone at hascii ⊢
      cases hascii with
      | none =>
        have hopen : Reads closing fun cs =>
            (openClass v cs).map fun r => ((.inr (r.1, o :: outer) : ClassTurn), r.2) :=
          (reads_openClass v).map fun o' => (.inr (o', o :: outer) : ClassTurn)
        exact hopen.alike hes
      | some s h => exact .some h
    · have hrange : Alike closing
          ((readClassRange v (c :: (es ++ closing))).map fun r =>
            ((.inr (o.push r.1, outer) : ClassTurn), r.2))
          ((readClassRange v (c :: es)).map fun r =>
            ((.inr (o.push r.1, outer) : ClassTurn), r.2)) :=
        (readClassRange_alike (.here (c :: es))).map fun s => (.inr (o.push s, outer) : ClassTurn)
      cases hop : classOp? c with
      | none => exact hrange
      | some op =>
        -- an operation is written twice, and the closing parenthesis is none
        have hhead : ((es ++ closing).head? == some c) = (es.head? == some c) := by
          cases es with
          | nil =>
            have hc : c ≠ ')' := by
              rintro rfl
              cases hop
            simpa [closing] using hc.symm
          | cons c es => rfl
        rw [hhead]
        cases htwice : es.head? == some c with
        | false => exact hrange
        | true =>
          obtain ⟨es, rfl⟩ := List.head?_eq_some_iff.mp (beq_iff_eq.mp htwice)
          exact .some (.here es)

/-- **No class ends in the closing**: it has no bracket. -/
theorem readClassFrom_eq_none (hcs : cs <:+ closing) : readClassFrom v fuel o outer cs = none := by
  induction fuel generalizing o outer cs with
  | zero => rw [readClassFrom]
  | succ fuel ih =>
    rw [readClassFrom_succ]
    have hskip : skip v cs <:+ closing := (skip_suffix v cs).trans hcs
    cases hcs' : skip v cs with
    | nil => rfl
    | cons c rest =>
      rw [hcs'] at hskip
      refine Option.bind_eq_none_iff.mpr fun ⟨y, rest'⟩ hy => ?_
      have hrest : rest' <:+ closing :=
        (classStep_suffix hy).trans ((List.suffix_cons c rest).trans hskip)
      cases y with
      | inl a =>
        -- the class would end at a bracket of the closing
        obtain ⟨rfl, -⟩ := classStep_eq_inl hy
        exact absurd (hskip.subset List.mem_cons_self) (by decide)
      | inr next => exact ih hrest

theorem readClassFrom_enough (v : Bool) (fuel : Nat) (o : OpenClass) (outer : List OpenClass)
    (cs : List Char) (h : cs.length ≤ fuel) :
    readClassFrom v (fuel + 1) o outer cs = readClassFrom v fuel o outer cs := by
  induction fuel generalizing o outer cs with
  | zero =>
    obtain rfl := List.length_eq_zero_iff.mp (Nat.le_zero.mp h)
    rw [readClassFrom_succ, skip_nil, readClassFrom]
  | succ fuel ih =>
    have hlength := length_skip_le v cs
    rw [readClassFrom_succ, readClassFrom_succ]
    cases hcs : skip v cs with
    | nil => rfl
    | cons c rest =>
      rw [hcs, List.length_cons] at hlength
      refine Option.bind_congr fun ⟨y, rest'⟩ hy => ?_
      have hrest : rest'.length ≤ rest.length := (classStep_suffix hy).length_le
      cases y with
      | inl a => rfl
      | inr next =>
        have hfuel : rest'.length ≤ fuel := by omega
        exact ih _ _ _ hfuel

theorem reads_readClassFrom_fuel (v : Bool) (fuel : Nat) (o : OpenClass) (outer : List OpenClass) :
    Reads ['$'] (readClassFrom v fuel o outer) := by
  induction fuel generalizing o outer with
  | zero => exact Reads.none.congr fun cs => by rw [readClassFrom]
  | succ fuel ih =>
    have hgo : ∀ y, Reads ['$'] (classGoOn v fuel y) := by
      rintro (a | ⟨o', outer'⟩)
      · exact .pure a
      · exact ih o' outer'
    constructor
    · intro cs a rest h
      rw [readClassFrom_succ] at h
      refine List.IsSuffix.trans ?_ (skip_suffix v cs)
      cases hcs : skip v cs with
      | nil => rw [hcs] at h; cases h
      | cons c cs' =>
        rw [hcs] at h
        obtain ⟨⟨y, rest'⟩, hy, hrest⟩ := Option.bind_eq_some_iff.mp h
        exact (((hgo y).suffix hrest).trans (classStep_suffix hy)).trans (List.suffix_cons c cs')
    · intro ds es hclosed
      rw [readClassFrom_succ, readClassFrom_succ]
      have hskipped := hclosed.skip v
      generalize skip v ds = ds at hskipped ⊢
      generalize skip v es = es at hskipped ⊢
      cases hskipped with
      | lost => exact .none
      | here =>
        cases es with
        | nil =>
          have hnone : readClassFrom v (fuel + 1) o outer closing = none :=
            readClassFrom_eq_none (List.suffix_refl _)
          rw [readClassFrom_succ, closing, tight_closing v] at hnone
          exact (congrArg (Alike ['$'] · _) hnone).mpr .none
        | cons c es =>
          intro a rest h
          obtain ⟨⟨y, rest'⟩, hy, hrest⟩ := Option.bind_eq_some_iff.mp h
          rcases classStep_alike v o outer c es y rest' hy with ⟨r, hr, halone⟩ | hpast
          · dsimp only
            rw [halone]
            exact (hgo y).alike hr a rest hrest
          · -- a step over the closing either ends the class or leaves it open for good
            cases y with
            | inl b =>
              obtain ⟨rfl, rfl, rfl, rfl⟩ := classStep_eq_inl hy
              cases hrest
              exact .inl ⟨es, .here es, rfl⟩
            | inr next =>
              have hnone : readClassFrom v fuel next.1 next.2 rest' = none :=
                readClassFrom_eq_none hpast
              cases hnone.symm.trans hrest

theorem reads_readClassFrom (v : Bool) (o : OpenClass) (outer : List OpenClass) :
    Reads ['$'] fun cs => readClassFrom v cs.length o outer cs :=
  .ofFuel 0 (reads_readClassFrom_fuel v · o outer) fun fuel => readClassFrom_enough v fuel o outer

theorem readClass_eq (v : Bool) (cs : List Char) :
    readClass v cs = (openClass v cs).bind fun r => readClassFrom v r.2.length r.1 [] r.2 := by
  have hmore : ∀ o rest n, readClassFrom v (rest.length + n) o [] rest =
      readClassFrom v rest.length o [] rest := by
    intro o rest n
    induction n with
    | zero => rfl
    | succ n ih => rw [← Nat.add_assoc, readClassFrom_enough _ _ _ _ _ (Nat.le_add_right _ _), ih]
  unfold readClass
  cases ho : openClass v cs with
  | none => rfl
  | some r =>
    have hrest : r.2.length ≤ cs.length := ((reads_openClass v).suffix ho).length_le
    obtain ⟨n, hn⟩ := Nat.exists_eq_add_of_le (Nat.le_succ_of_le hrest)
    change readClassFrom v (cs.length + 1) r.1 [] r.2 = readClassFrom v r.2.length r.1 [] r.2
    rw [← hmore r.1 r.2 n, ← hn]

/-- **A class reads alike**, and never over the closing. -/
theorem reads_readClass (v : Bool) : Reads ['$'] (readClass v) := by
  constructor
  · intro cs a rest h
    rw [readClass_eq] at h
    obtain ⟨⟨o, rest'⟩, ho, hrest⟩ := Option.bind_eq_some_iff.mp h
    exact ((reads_readClassFrom v o []).suffix hrest).trans ((reads_openClass v).suffix ho)
  · intro ds es hclosed
    rw [readClass_eq, readClass_eq]
    exact ((reads_openClass v).alike hclosed).bind_refusing (fun o => reads_readClassFrom v o [])
      fun o rest hrest => readClassFrom_eq_none hrest

/-- What is read between brackets is a class. -/
theorem readClassFrom_eq_cls {a : Ast} (h : readClassFrom v fuel o outer cs = some (a, rest)) :
    ∃ negated s, a = .cls negated s := by
  induction fuel generalizing o outer cs with
  | zero => rw [readClassFrom] at h; cases h
  | succ fuel ih =>
    rw [readClassFrom_succ] at h
    cases hcs : skip v cs with
    | nil => rw [hcs] at h; cases h
    | cons c cs' =>
      rw [hcs] at h
      obtain ⟨⟨y, rest'⟩, hy, hrest⟩ := Option.bind_eq_some_iff.mp h
      cases y with
      | inl b =>
        obtain ⟨-, -, rfl, -⟩ := classStep_eq_inl hy
        cases hrest
        exact ⟨_, _, rfl⟩
      | inr next => exact ih hrest

theorem readClass_eq_cls {a : Ast} (h : readClass v cs = some (a, rest)) :
    ∃ negated s, a = .cls negated s := by
  rw [readClass_eq] at h
  obtain ⟨r, -, hrest⟩ := Option.bind_eq_some_iff.mp h
  exact readClassFrom_eq_cls hrest

end Coordination.Text.Pattern
