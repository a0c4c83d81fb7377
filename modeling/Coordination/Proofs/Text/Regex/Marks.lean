import Coordination.Proofs.Text.Regex.Classes

/-!
# Marks before a closing parenthesis

What follows an opening parenthesis, and the bounds of a repetition, are read with the closing
behind them as they are read alone, unless the reader takes the closing parenthesis for the end of
some switches. The bounds of a repetition leave room for the rounds that it has to take.

## Main results

* `Pattern.reads_readGroupStart`, `Pattern.reads_readBounds`: group marks and bounds read alike
* `Pattern.readBounds_le`: no repetition has to take more rounds than it may
-/

namespace Coordination.Text.Pattern

variable {v : Bool} {stop cs ds es rest : List Char} {c : Char}

/-! ## Groups -/

theorem readFlags_cons (negated : Bool) (fs : FlagSetting) (c : Char) (cs : List Char) :
    readFlags negated fs (c :: cs) =
      if c == ':' || c == ')' then some (fs, c :: cs)
      else if c == '-' then
        if negated || cs.isEmpty || cs.head? == some ':' || cs.head? == some ')' then none
        else readFlags true fs cs
      else (flag? c).bind fun f =>
        if fs.any (·.1 == f) then none else readFlags negated (fs ++ [(f, !negated)]) cs := by
  rw [readFlags.eq_def]
  dsimp only
  cases cs <;> cases flag? c <;> simp

theorem readFlags_suffix {negated : Bool} {fs fs' : FlagSetting}
    (h : readFlags negated fs cs = some (fs', rest)) : rest <:+ cs := by
  induction cs generalizing negated fs with
  | nil => cases h
  | cons c cs ih =>
    rw [readFlags_cons] at h
    split at h
    · cases h
      exact List.suffix_refl _
    · refine List.IsSuffix.trans ?_ (List.suffix_cons c cs)
      split at h
      · split at h
        · cases h
        · exact ih h
      · obtain ⟨f, -, hf⟩ := Option.bind_eq_some_iff.mp h
        split at hf
        · cases hf
        · exact ih hf

theorem readFlags_alike (negated : Bool) (fs : FlagSetting) (es : List Char) :
    Alike closing (readFlags negated fs (es ++ closing)) (readFlags negated fs es) := by
  induction es generalizing negated fs with
  | nil => exact .past (List.suffix_refl _)
  | cons c es ih =>
    rw [List.cons_append, readFlags_cons, readFlags_cons]
    split
    · exact .some (.here (c :: es))
    · split
      · cases es with
        | nil =>
          -- a hyphen needs a switch behind it, which neither the closing nor the end of a text is
          rw [if_pos (by simp [closing])]
          exact .none
        | cons d es =>
          exact .ite _ .none (ih true fs)
      · cases flag? c with
        | none => exact .none
        | some f =>
          exact .ite _ .none (ih _ _)

theorem reads_readFlags (negated : Bool) (fs : FlagSetting) :
    Reads closing (readFlags negated fs) where
  suffix := readFlags_suffix
  alike := by
    intro ds es h
    cases h with
    | lost => exact .none
    | here => exact readFlags_alike negated fs es

/-- The name of a group, given the characters before its closing angle bracket. -/
def nameAt (name : List Char) (cs : List Char) : Option (String × List Char) :=
  match name, cs with
  | c :: more, '>' :: rest =>
    if isNameChar true c && more.all (isNameChar false) then some (String.ofList name, rest)
    else none
  | _, _ => none

theorem reads_nameAt (name : List Char) : Reads ['$'] (nameAt name) := by
  cases name with
  | nil => exact Reads.none
  | cons c more =>
    refine .mark false '>' (by decide) (fun _ => rfl) (fun rest => ?_) (fun cs _ hhead => ?_)
      (.ite (isNameChar true c && more.all (isNameChar false))
        (.pure (String.ofList (c :: more))) .none) .none
    · rfl
    · unfold nameAt
      split
      · exact absurd rfl hhead
      · rfl

theorem readName_eq (cs : List Char) :
    readName cs = nameAt (cs.takeWhile fun c => decide (c ≠ '>'))
      (cs.dropWhile fun c => decide (c ≠ '>')) := rfl

theorem reads_readName : Reads ['$'] readName := by
  constructor
  · intro cs name rest h
    exact ((reads_nameAt _).suffix h).trans (List.dropWhile_suffix _)
  · intro ds es hclosed
    cases hclosed with
    | lost => exact .none
    | here =>
      rw [readName_eq, readName_eq]
      rcases dropWhile_closed (fun c => decide (c ≠ '>')) (by simp [closing]) es with
        ⟨hes, hds⟩ | ⟨hds, -, htake⟩
      · have hnone : ∀ name, nameAt name [] = none := fun name => by cases name <;> rfl
        rw [hes, hds, hnone, hnone]
        exact .none
      · rw [hds, htake]
        exact (reads_nameAt _).alike (.here _)

/-- What begins a group after a name. -/
def nameStart (cs : List Char) : Option (GroupStart × List Char) :=
  (readName cs).map fun r => (.named r.1, r.2)

/-- What begins a group after switches, or is switches only. -/
def flagEnd (fs : FlagSetting) : List Char → Option (GroupStart × List Char)
  | ')' :: rest => if fs.isEmpty then none else some (.switches fs, rest)
  | ':' :: rest => some (.plain fs, rest)
  | _ => none

/-- What begins with switches. -/
def flagStart (cs : List Char) : Option (GroupStart × List Char) :=
  (readFlags false [] cs).bind fun r => flagEnd r.1 r.2

/-- What begins a group after an angle bracket, where no look around is possible. -/
def angleStart (cs : List Char) : Option (GroupStart × List Char) :=
  if cs.head? = some '=' then none else if cs.head? = some '!' then none else nameStart cs

/-- What begins a group after a question mark, where no angle bracket follows. -/
def letterStart : List Char → Option (GroupStart × List Char)
  | 'P' :: rest => if rest.head? = some '<' then nameStart (rest.drop 1) else none
  | cs => flagStart cs

/-- What begins a group after a question mark. -/
def questionStart : List Char → Option (GroupStart × List Char)
  | '<' :: rest => angleStart rest
  | cs => letterStart cs

theorem flagEnd_cons (fs : FlagSetting) (c : Char) (cs : List Char) :
    flagEnd fs (c :: cs) =
      if c = ')' then if fs.isEmpty then none else some (.switches fs, cs)
      else if c = ':' then some (.plain fs, cs) else none := by
  by_cases hparenthesis : c = ')'
  · subst hparenthesis
    rfl
  · by_cases hcolon : c = ':'
    · subst hcolon
      rfl
    · rw [if_neg hparenthesis, if_neg hcolon]
      unfold flagEnd
      split
      · rename_i heq
        exact absurd (List.cons.inj heq).1 hparenthesis
      · rename_i heq
        exact absurd (List.cons.inj heq).1 hcolon
      · rfl

theorem letterStart_of_ne (h : cs.head? ≠ some 'P') : letterStart cs = flagStart cs := by
  unfold letterStart
  split
  · exact absurd rfl h
  · rfl

theorem questionStart_of_ne (h : cs.head? ≠ some '<') : questionStart cs = letterStart cs := by
  unfold questionStart
  split
  · exact absurd rfl h
  · rfl

theorem readGroupStart_question (v : Bool) (cs : List Char) :
    readGroupStart v ('?' :: cs) = questionStart cs := by
  rw [readGroupStart.eq_def, tight_of_not_blank (by decide) (by decide)]
  split
  -- the starts that are told by their first characters alone
  any_goals
    rename_i heq
    cases heq
    rfl
  · rename_i rest hequal hbang heq
    cases heq
    change nameStart rest = angleStart rest
    rw [angleStart, if_neg (head?_ne_of_forall hequal), if_neg (head?_ne_of_forall hbang)]
  · rename_i rest hequal hbang hbehind hbehind' hname hangle heq
    cases heq
    have hflags : questionStart cs = flagStart cs := by
      rw [questionStart_of_ne (head?_ne_of_forall hangle)]
      by_cases hletter : cs.head? = some 'P'
      · obtain ⟨r, rfl⟩ := List.head?_eq_some_iff.mp hletter
        exact if_neg (head?_ne_of_forall fun r' hr' => hname r' (by rw [hr']))
      · exact letterStart_of_ne hletter
    rw [hflags, flagStart]
    cases readFlags false [] cs with
    | none => rfl
    | some r =>
      obtain ⟨fs, _ | ⟨c, rest⟩⟩ := r
      · rfl
      · change _ = flagEnd fs (c :: rest)
        rw [flagEnd_cons]
        split
        · rename_i heq
          cases heq
          rw [if_pos rfl]
        · rename_i heq
          cases heq
          rw [if_neg (by decide), if_pos rfl]
        · rename_i hend hcolon
          rw [if_neg (by rintro rfl; exact hend fs rest rfl),
            if_neg (by rintro rfl; exact hcolon fs rest rfl)]
  · rename_i hother
    exact absurd rfl (hother cs)

theorem Reads.unless {α : Type} {f : Reader α} (c : Char) (hc : c ≠ ')') (hf : Reads stop f) :
    Reads stop fun cs => if cs.head? = some c then Option.none else f cs :=
  .mark false c hc (fun _ => rfl) (fun _ => if_pos rfl) (fun _ _ hhead => if_neg hhead) .none hf

theorem reads_nameStart : Reads ['$'] nameStart := reads_readName.map GroupStart.named

theorem reads_flagEnd_cons (fs : FlagSetting) (c : Char) :
    Reads ['$'] fun cs => flagEnd fs (c :: cs) :=
  (Reads.ite (c = ')') (.ite fs.isEmpty .none (.pure (.switches fs)))
    (.ite (c = ':') (.pure (.plain fs)) .none)).congr (flagEnd_cons fs c)

theorem reads_flagEnd (fs : FlagSetting) : Reads ['$'] (flagEnd fs) :=
  .uncons false (List.suffix_refl _) (fun _ => rfl) rfl fun c _ => reads_flagEnd_cons fs c

theorem reads_flagStart : Reads ['$'] flagStart := by
  constructor
  · intro cs x rest h
    obtain ⟨⟨fs, rest'⟩, hfs, hrest⟩ := Option.bind_eq_some_iff.mp h
    exact ((reads_flagEnd fs).suffix hrest).trans (readFlags_suffix hfs)
  · intro ds es hclosed x rest h
    obtain ⟨⟨fs, rest'⟩, hfs, hrest⟩ := Option.bind_eq_some_iff.mp h
    rcases (reads_readFlags false []).alike hclosed fs rest' hfs with ⟨r, hr, halone⟩ | hpast
    · rw [flagStart, halone]
      exact (reads_flagEnd fs).alike hr x rest hrest
    · cases rest' with
      | nil => cases hrest
      | cons c cs =>
        -- the switches end at the closing parenthesis, which then is read, too
        refine .inr (((reads_flagEnd_cons fs c).suffix hrest).trans ?_)
        rcases List.suffix_cons_iff.mp hpast with heq | hdollar
        · exact (List.cons.inj heq).2 ▸ List.suffix_refl _
        · exact (List.suffix_cons c cs).trans hdollar

theorem reads_questionStart : Reads ['$'] questionStart := by
  have hangle : Reads ['$'] angleStart :=
    (reads_nameStart.unless '!' (by decide)).unless '=' (by decide)
  have hafter : Reads ['$'] fun rest =>
      if rest.head? = some '<' then nameStart (rest.drop 1) else none :=
    .mark false '<' (by decide) (fun _ => rfl) (fun _ => if_pos rfl) (fun _ _ hhead => if_neg hhead)
      reads_nameStart .none
  have hletter : Reads ['$'] letterStart :=
    .mark false 'P' (by decide) (fun _ => rfl) (fun _ => rfl) (fun _ _ => letterStart_of_ne) hafter
      reads_flagStart
  exact .mark false '<' (by decide) (fun _ => rfl) (fun _ => rfl) (fun _ _ => questionStart_of_ne)
    hangle hletter

theorem reads_readGroupStart (v : Bool) : Reads ['$'] (readGroupStart v) := by
  refine .mark v '?' (by decide) (fun cs => ?_) (readGroupStart_question v)
    (fun cs hskip hhead => ?_) reads_questionStart (.pure .numbered)
  · rw [readGroupStart.eq_def, readGroupStart.eq_def, skip_skip]
  · rw [readGroupStart.eq_def, hskip]
    split <;> first | exact absurd rfl hhead | rfl

/-! ## Repetitions -/

theorem Closed.dropWhile (p : Char → Bool) (hp : p ')' = false) (h : Closed ds es) :
    Closed (ds.dropWhile p) (es.dropWhile p) := by
  cases h with
  | lost => exact .lost
  | here =>
    rw [dropWhile_append_closing p hp]
    exact .here _

theorem Reads.dropWhile {α : Type} {f : Reader α} (p : Char → Bool) (hp : p ')' = false)
    (hf : Reads stop f) : Reads stop fun cs => f (cs.dropWhile p) where
  suffix h := (hf.suffix h).trans (List.dropWhile_suffix p)
  alike h := hf.alike (h.dropWhile p hp)

theorem reads_digits_fuel (v : Bool) (fuel : Nat) :
    Reads ['$'] fun cs => some (readDecimal.digits v fuel cs) := by
  induction fuel with
  | zero => exact .pure []
  | succ fuel ih =>
    have hmore : ∀ c, Reads ['$'] fun rest =>
        some (c :: (readDecimal.digits v fuel (skip v rest)).1,
          (readDecimal.digits v fuel (skip v rest)).2) := fun c => (ih.skip v).map (c :: ·)
    constructor
    · intro cs ds rest h
      cases cs with
      | nil => cases h; exact List.suffix_refl _
      | cons c cs =>
        rw [readDecimal.digits] at h
        split at h
        · exact ((hmore c).suffix h).trans (List.suffix_cons c cs)
        · cases h; exact List.suffix_refl _
    · intro ds es h
      cases h with
      | lost => exact .some .lost
      | here =>
        cases es with
        | nil => exact .some (.here [])
        | cons c es =>
          rw [List.cons_append, readDecimal.digits, readDecimal.digits]
          split
          · exact (hmore c).alike (.here es)
          · exact .some (.here (c :: es))

theorem digits_enough (v : Bool) (fuel : Nat) (cs : List Char) (h : cs.length ≤ fuel) :
    readDecimal.digits v (fuel + 1) cs = readDecimal.digits v fuel cs := by
  induction fuel generalizing cs with
  | zero =>
    obtain rfl := List.length_eq_zero_iff.mp (Nat.le_zero.mp h)
    rfl
  | succ fuel ih =>
    cases cs with
    | nil => rfl
    | cons c cs =>
      have hlength := length_skip_le v cs
      rw [List.length_cons] at h
      rw [readDecimal.digits, readDecimal.digits, ih _ (by omega)]

theorem reads_digits (v : Bool) :
    Reads ['$'] fun cs => some (readDecimal.digits v (cs.length + 1) cs) :=
  .ofFuel 1 (reads_digits_fuel v) fun fuel cs h => by rw [digits_enough v fuel cs h]

theorem reads_readDecimal (v : Bool) : Reads ['$'] (readDecimal v) := by
  have hnumber : ∀ ds : List Char, Reads ['$'] fun cs =>
      if ds.isEmpty || UInt32.size ≤ ds.foldl (fun n d => 10 * n + (d.toNat - 48)) 0 then none
      else some (ds.foldl (fun n d => 10 * n + (d.toNat - 48)) 0, skip v (cs.dropWhile isBlank)) :=
    fun ds => .ite _ .none (((Reads.pure _).skip v).dropWhile isBlank (by decide))
  exact (((reads_digits v).bind hnumber).dropWhile isBlank (by decide)).congr fun cs => rfl

/-- The upper bound of a repetition, before its closing brace. -/
def mostEnd (least most : Nat) (cs : List Char) : Option ((Nat × Option Nat) × List Char) :=
  match cs with
  | '\x7d' :: rest => if least ≤ most then some ((least, some most), rest) else none
  | _ => none

/-- The bounds of a repetition, after the comma. -/
def leastEnd (v : Bool) (least : Nat) (cs : List Char) : Option ((Nat × Option Nat) × List Char) :=
  match skip v cs with
  | '\x7d' :: rest => some ((least, none), rest)
  | cs => (readDecimal v cs).bind fun r => mostEnd least r.1 r.2

/-- The bounds of a repetition, after the first number. -/
def boundsEnd (v : Bool) (least : Nat) (cs : List Char) : Option ((Nat × Option Nat) × List Char) :=
  match cs with
  | '\x7d' :: rest => some ((least, some least), rest)
  | ',' :: rest => leastEnd v least rest
  | _ => none

theorem boundsEnd_of_ne {least : Nat} (hbrace : cs.head? ≠ some '\x7d')
    (hcomma : cs.head? ≠ some ',') : boundsEnd v least cs = none := by
  unfold boundsEnd
  split
  · exact absurd rfl hbrace
  · exact absurd rfl hcomma
  · rfl

theorem mostEnd_of_ne {least most : Nat} (h : cs.head? ≠ some '\x7d') :
    mostEnd least most cs = none := by
  unfold mostEnd
  split
  · exact absurd rfl h
  · rfl

theorem leastEnd_of_ne {least : Nat} (h : (skip v cs).head? ≠ some '\x7d') :
    leastEnd v least cs = (readDecimal v (skip v cs)).bind fun r => mostEnd least r.1 r.2 := by
  unfold leastEnd
  split
  · rename_i heq
    exact absurd (congrArg List.head? heq) h
  · rfl

theorem readBounds_eq (v : Bool) (cs : List Char) :
    readBounds v cs = (readDecimal v (skip v cs)).bind fun r => boundsEnd v r.1 r.2 := by
  unfold readBounds
  cases readDecimal v (skip v cs) with
  | none => rfl
  | some r =>
    obtain ⟨least, rest⟩ := r
    change _ = boundsEnd v least rest
    split
    · rename_i heq
      cases heq
      rfl
    · rename_i rest heq
      cases heq
      change _ = leastEnd v least rest
      split
      · rename_i hskip
        unfold leastEnd
        rw [hskip]
        rfl
      · rename_i hother
        rw [leastEnd_of_ne (head?_ne_of_forall hother)]
        cases readDecimal v (skip v rest) with
        | none => rfl
        | some r =>
          obtain ⟨most, rest⟩ := r
          change _ = mostEnd least most rest
          split
          · rename_i heq
            cases heq
            rfl
          · rename_i hend
            exact (mostEnd_of_ne (head?_ne_of_forall fun r hr => hend most r (by rw [hr]))).symm
    · rename_i hbrace hcomma
      exact (boundsEnd_of_ne (head?_ne_of_forall fun r hr => hbrace least r (by rw [hr]))
        (head?_ne_of_forall fun r hr => hcomma least r (by rw [hr]))).symm

theorem reads_mostEnd (least most : Nat) : Reads ['$'] (mostEnd least most) :=
  .mark false '\x7d' (by decide) (fun _ => rfl) (fun _ => rfl) (fun _ _ => mostEnd_of_ne)
    (.ite (least ≤ most) (.pure (least, some most)) .none) .none

theorem reads_leastEnd (v : Bool) (least : Nat) : Reads ['$'] (leastEnd v least) := by
  refine .mark v '\x7d' (by decide) (fun cs => ?_) (fun rest => ?_) (fun cs hskip hhead => ?_)
    (.pure (least, none)) ((reads_readDecimal v).bind (reads_mostEnd least))
  · rw [leastEnd, leastEnd, skip_skip]
  · unfold leastEnd
    rw [tight_of_not_blank (by decide) (by decide)]
    rfl
  · rw [leastEnd_of_ne (hskip.symm ▸ hhead), hskip]

theorem reads_boundsEnd (v : Bool) (least : Nat) : Reads ['$'] (boundsEnd v least) := by
  have hcomma : Reads ['$'] fun cs =>
      if cs.head? = some ',' then leastEnd v least (cs.drop 1) else none :=
    .mark false ',' (by decide) (fun _ => rfl) (fun _ => if_pos rfl) (fun _ _ hhead => if_neg hhead)
      (reads_leastEnd v least) .none
  refine .mark false '\x7d' (by decide) (fun _ => rfl) (fun _ => rfl) (fun cs _ hhead => ?_)
    (.pure (least, some least)) hcomma
  split
  · rename_i h
    obtain ⟨r, rfl⟩ := List.head?_eq_some_iff.mp h
    rfl
  · rename_i h
    exact boundsEnd_of_ne hhead h

theorem reads_readBounds (v : Bool) : Reads ['$'] (readBounds v) :=
  (((reads_readDecimal v).skip v).bind (reads_boundsEnd v)).congr (readBounds_eq v)

/-- The bounds that are read leave room for the rounds that a repetition has to take. -/
theorem readBounds_le {least : Nat} {most : Option Nat}
    (h : readBounds v cs = some ((least, most), rest)) : ∀ m ∈ most, least ≤ m := by
  have hmost : ∀ {least' most' cs}, mostEnd least' most' cs = some ((least, most), rest) →
      ∀ m ∈ most, least ≤ m := by
    intro least' most' cs h
    unfold mostEnd at h
    split at h
    · split at h
      · cases h
        rintro m ⟨⟩
        assumption
      · cases h
    · cases h
  rw [readBounds_eq] at h
  obtain ⟨r, -, h⟩ := Option.bind_eq_some_iff.mp h
  unfold boundsEnd at h
  split at h
  · cases h
    rintro m ⟨⟩
    exact Nat.le_refl _
  · unfold leastEnd at h
    split at h
    · cases h
      nofun
    · obtain ⟨r', -, h⟩ := Option.bind_eq_some_iff.mp h
      exact hmost h
  · cases h

/-- No bounds stand in the closing. -/
theorem readBounds_eq_none (h : skip v cs = closing) : readBounds v cs = none := by
  have hclosing : readDecimal v closing = none := by cases v <;> decide +kernel
  rw [readBounds_eq, h, hclosing]
  rfl

theorem skipLazy_suffix (cs : List Char) : skipLazy cs <:+ cs := by
  unfold skipLazy
  split
  · exact List.suffix_cons _ _
  · exact List.suffix_refl _

theorem Closed.skipLazy (h : Closed ds es) : Closed (skipLazy ds) (skipLazy es) := by
  cases h with
  | lost => exact .lost
  | here =>
    cases es with
    | nil => exact .here []
    | cons c es =>
      by_cases hc : c = '?'
      · subst hc
        exact .here es
      · have hother : ∀ cs, Pattern.skipLazy (c :: cs) = c :: cs := fun cs => by
          rw [Pattern.skipLazy]
          rintro rest ⟨⟩
          exact hc rfl
        rw [List.cons_append, hother, hother]
        exact .here (c :: es)

theorem Reads.skipLazy {α : Type} {f : Reader α} (hf : Reads stop f) :
    Reads stop fun cs => f (skipLazy cs) where
  suffix h := (hf.suffix h).trans (skipLazy_suffix _)
  alike h := hf.alike h.skipLazy

end Coordination.Text.Pattern
