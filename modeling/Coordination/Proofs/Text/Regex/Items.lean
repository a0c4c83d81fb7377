import Coordination.Text.Regex.Reader
import Mathlib.Data.List.Basic

/-!
# Items before a closing parenthesis

A pattern that is put between parentheses is read with a closing parenthesis and an anchor behind
it. A reader of an item then does what it does on the pattern alone, unless it reads on over the
parenthesis. In verbose mode a comment can do so too; it takes the rest of the text with it.

## Main definitions

* `Pattern.Closed`: a text with and without the closing behind it
* `Pattern.Reads`: what holds of a reader with and without the closing

## Main results

* `Pattern.Closed.skip`: skipping blanks keeps the closing, unless a comment runs over it
* `Pattern.readEscape_alike`: escapes, of which one can stop before a brace that begins nothing
-/

namespace Coordination.Text.Pattern

variable {α β : Type} {v : Bool} {stop cs ds es rest : List Char} {x : α}

/-! ## Readers -/

/-- What the anchors put behind a pattern. -/
def closing : List Char := [')', '$']

/-- A text with the closing behind it and the text without, unless a comment has run over both. -/
inductive Closed : List Char → List Char → Prop
  | here (es : List Char) : Closed (es ++ closing) es
  | lost : Closed [] []

/-- Before the closing parenthesis, both texts begin with the same character. -/
theorem Closed.uncons {c : Char} (h : Closed (c :: ds) es) (hc : c ≠ ')') :
    ∃ es', es = c :: es' ∧ Closed ds es' := by
  generalize hcs : c :: ds = cs at h
  cases h with
  | lost => cases hcs
  | here =>
    cases es with
    | nil => exact absurd (List.cons.inj hcs).1 hc
    | cons c' es =>
      obtain ⟨rfl, rfl⟩ := List.cons.inj hcs
      exact ⟨es, rfl, .here es⟩

theorem not_suffix_dollar {c : Char} (hc : c ≠ '$') : ¬ c :: cs <:+ ['$'] := by
  intro h
  rcases List.suffix_cons_iff.mp h with heq | hnil
  · exact hc (List.cons.inj heq).1
  · cases List.suffix_nil.mp hnil

theorem head?_ne_of_forall {c : Char} (h : ∀ cs', cs = c :: cs' → False) : cs.head? ≠ some c :=
  fun hhead => by
    obtain ⟨cs', hcs⟩ := List.head?_eq_some_iff.mp hhead
    exact h cs' hcs

/-- A reader of the start of a text: what it reads, and what is left. -/
abbrev Reader (α : Type) := List Char → Option (α × List Char)

/-- What a reader does with the closing is what it does without, unless it leaves no more than the
end of the closing. -/
def Alike (stop : List Char) (closed alone : Option (α × List Char)) : Prop :=
  ∀ x rest, closed = some (x, rest) →
    (∃ r, Closed rest r ∧ alone = some (x, r)) ∨ rest <:+ stop

/-- **A reader that leaves a part of its text**, and does the same with the closing as without
unless it reads on over it. -/
structure Reads (stop : List Char) (f : Reader α) : Prop where
  suffix : ∀ {cs x rest}, f cs = some (x, rest) → rest <:+ cs
  alike : ∀ {ds es}, Closed ds es → Alike stop (f ds) (f es)

theorem Alike.none {alone : Option (α × List Char)} : Alike stop none alone := nofun

theorem Alike.some (h : Closed ds es) : Alike stop (some (x, ds)) (some (x, es)) := by
  rintro _ _ ⟨⟩
  exact .inl ⟨es, h, rfl⟩

theorem Alike.past {alone : Option (α × List Char)} (h : rest <:+ stop) :
    Alike stop (Option.some (x, rest)) alone := by
  rintro _ _ ⟨⟩
  exact .inr h

theorem Alike.of_suffix {closed alone : Option (α × List Char)}
    (h : ∀ x rest, closed = Option.some (x, rest) → rest <:+ stop) : Alike stop closed alone :=
  fun x rest hclosed => .inr (h x rest hclosed)

theorem Alike.ite {closed closed' alone alone' : Option (α × List Char)} (p : Prop) [Decidable p]
    (h : Alike stop closed alone) (h' : Alike stop closed' alone') :
    Alike stop (if p then closed else closed') (if p then alone else alone') := by
  by_cases hp : p <;> simpa only [hp, if_true, if_false]

theorem Alike.mono {stop' : List Char} {closed alone : Option (α × List Char)}
    (hstop : stop <:+ stop') (h : Alike stop closed alone) : Alike stop' closed alone :=
  fun x rest hclosed => (h x rest hclosed).imp_right fun h => h.trans hstop

/-- What follows a reader can be read too. -/
theorem Alike.bind {closed alone : Option (α × List Char)} {g : α → Reader β}
    (h : Alike stop closed alone) (hg : ∀ x, Reads stop (g x)) :
    Alike stop (closed.bind fun r => g r.1 r.2) (alone.bind fun r => g r.1 r.2) := by
  intro y rest hclosed
  obtain ⟨⟨x, mid⟩, hmid, hy⟩ := Option.bind_eq_some_iff.mp hclosed
  rcases h x mid hmid with ⟨r, hr, halone⟩ | hpast
  · rw [halone]
    exact (hg x).alike hr y rest hy
  · exact .inr (((hg x).suffix hy).trans hpast)

theorem Alike.map {closed alone : Option (α × List Char)} (g : α → β)
    (h : Alike stop closed alone) :
    Alike stop (closed.map fun r => (g r.1, r.2)) (alone.map fun r => (g r.1, r.2)) := by
  intro y rest hclosed
  obtain ⟨⟨x, mid⟩, hx, heq⟩ := Option.map_eq_some_iff.mp hclosed
  cases heq
  refine (h x mid hx).imp_left ?_
  rintro ⟨r, hr, halone⟩
  exact ⟨r, hr, by rw [halone]; rfl⟩

namespace Reads

variable {f : Reader α}

theorem congr {g : Reader α} (h : Reads stop f) (heq : ∀ cs, g cs = f cs) : Reads stop g := by
  obtain rfl : g = f := funext heq
  exact h

theorem mono {stop' : List Char} (h : Reads stop f) (hstop : stop <:+ stop') : Reads stop' f :=
  ⟨h.suffix, fun hclosed => (h.alike hclosed).mono hstop⟩

theorem none : Reads stop (fun _ => none : Reader α) := ⟨nofun, fun _ => .none⟩

theorem pure (x : α) : Reads stop fun cs => some (x, cs) :=
  ⟨by rintro _ _ _ ⟨⟩; exact List.suffix_refl _, .some⟩

theorem option (o : Option β) (g : β → α) : Reads stop fun cs => o.map fun x => (g x, cs) := by
  cases o with
  | none => exact none
  | some x => exact pure (g x)

theorem ite {g : Reader α} (p : Prop) [Decidable p] (hf : Reads stop f) (hg : Reads stop g) :
    Reads stop fun cs => if p then f cs else g cs := by
  by_cases h : p <;> simpa only [h, if_true, if_false]

theorem bind {g : α → Reader β} (hf : Reads stop f) (hg : ∀ x, Reads stop (g x)) :
    Reads stop fun cs => (f cs).bind fun r => g r.1 r.2 where
  suffix h := by
    obtain ⟨⟨x, mid⟩, hmid, hrest⟩ := Option.bind_eq_some_iff.mp h
    exact ((hg x).suffix hrest).trans (hf.suffix hmid)
  alike h := (hf.alike h).bind hg

theorem map (g : α → β) (hf : Reads stop f) :
    Reads stop fun cs => (f cs).map fun r => (g r.1, r.2) where
  suffix h := by
    obtain ⟨⟨x, rest⟩, hx, heq⟩ := Option.map_eq_some_iff.mp h
    cases heq
    exact hf.suffix hx
  alike h := (hf.alike h).map g

/-- With enough fuel it does not matter how much there is. -/
theorem ofFuel {f : Nat → Reader α} (n : Nat) (h : ∀ fuel, Reads stop (f fuel))
    (henough : ∀ fuel cs, cs.length ≤ fuel → f (fuel + 1) cs = f fuel cs) :
    Reads stop fun cs => f (cs.length + n) cs where
  suffix := (h _).suffix
  alike := by
    have hmore : ∀ cs fuel, cs.length ≤ fuel → f fuel cs = f cs.length cs := by
      intro cs fuel hfuel
      induction hfuel with
      | refl => rfl
      | step hfuel ih => rw [henough _ cs hfuel, ih]
    intro ds es hclosed
    -- both texts can be read with the fuel that is enough for the longer one
    have hlength : es.length ≤ ds.length + n := by
      cases hclosed with
      | lost => exact Nat.zero_le _
      | here => rw [List.length_append]; omega
    rw [hmore es _ (Nat.le_add_right _ _), ← hmore es _ hlength]
    exact (h _).alike hclosed

end Reads

/-! ## Blanks -/

theorem skip_go_suffix (comment : Bool) (cs : List Char) : skip.go comment cs <:+ cs := by
  induction cs generalizing comment with
  | nil => exact List.suffix_refl _
  | cons c cs ih =>
    have htail : ∀ comment, skip.go comment cs <:+ c :: cs := fun comment =>
      (ih comment).trans (List.suffix_cons c cs)
    rw [skip.go]
    split
    · exact htail _
    · split
      · exact htail _
      · split
        · exact htail _
        · exact List.suffix_refl _

theorem skip_suffix (v : Bool) (cs : List Char) : skip v cs <:+ cs := by
  unfold skip
  split
  · exact skip_go_suffix false cs
  · exact List.suffix_refl cs

theorem length_skip_le (v : Bool) (cs : List Char) : (skip v cs).length ≤ cs.length :=
  (skip_suffix v cs).length_le

theorem closed_skip_go (comment : Bool) (es : List Char) :
    Closed (skip.go comment (es ++ closing)) (skip.go comment es) := by
  induction es generalizing comment with
  | nil =>
    cases comment with
    | true => exact .lost
    | false =>
      have hclosing : skip.go false closing = closing := by decide +kernel
      rw [List.nil_append, hclosing]
      exact .here []
  | cons c es ih =>
    rw [List.cons_append, skip.go, skip.go]
    split
    · exact ih _
    · split
      · exact ih _
      · split
        · exact ih _
        · exact .here (c :: es)

/-- Skipping blanks keeps the closing, unless a comment runs over it. -/
theorem Closed.skip (v : Bool) (h : Closed ds es) : Closed (skip v ds) (skip v es) := by
  cases h with
  | lost => cases v <;> exact .lost
  | here =>
    cases v with
    | false => exact .here es
    | true => exact closed_skip_go false es

namespace Reads

variable {f : Reader α}

theorem skip (v : Bool) (hf : Reads stop f) : Reads stop fun cs => f (skip v cs) where
  suffix h := (hf.suffix h).trans (skip_suffix v _)
  alike h := hf.alike (h.skip v)

end Reads

/-- Whether a character is none that is skipped, so that reading can go on at it. -/
def Tight (v : Bool) (c : Char) : Prop := ∀ rest, skip v (c :: rest) = c :: rest

theorem tight_false (c : Char) : Tight false c := fun _ => rfl

theorem tight_of_not_blank {c : Char} (hblank : isBlank c = false) (hc : c ≠ '#') : Tight v c := by
  intro rest
  cases v with
  | false => rfl
  | true => simp [skip, skip.go, hblank, hc]

/-- Skipping stops at a character at which reading can go on. -/
theorem tight_of_skip {c : Char} (h : skip v cs = c :: rest) : Tight v c := by
  cases v with
  | false => exact tight_false c
  | true =>
    suffices hgo : ∀ comment, skip.go comment cs = c :: rest → isBlank c = false ∧ c ≠ '#' by
      obtain ⟨hblank, hc⟩ := hgo false h
      exact tight_of_not_blank hblank hc
    clear h
    induction cs with
    | nil => rintro comment ⟨⟩
    | cons c' cs ih =>
      intro comment h
      rw [skip.go] at h
      split at h
      · exact ih _ h
      · split at h
        · exact ih _ h
        · split at h
          · exact ih _ h
          · cases h
            simp_all

theorem skip_skip (v : Bool) (cs : List Char) : skip v (skip v cs) = skip v cs := by
  cases h : skip v cs with
  | nil => cases v <;> rfl
  | cons c rest => exact tight_of_skip h rest

theorem tight_closing (v : Bool) : Tight v ')' := tight_of_not_blank (by decide) (by decide)

/-- A reader that takes a character and goes on, after blanks. -/
theorem Reads.uncons (v : Bool) {f : Reader α} (hstop : ['$'] <:+ stop)
    (hskip : ∀ cs, f (Pattern.skip v cs) = f cs) (hnil : f [] = Option.none)
    (h : ∀ c, Tight v c → Reads stop fun rest => f (c :: rest)) : Reads stop f where
  suffix := by
    intro cs x rest hrest
    rw [← hskip] at hrest
    cases hcs : Pattern.skip v cs with
    | nil => rw [hcs, hnil] at hrest; cases hrest
    | cons c cs' =>
      rw [hcs] at hrest
      have hsuffix : c :: cs' <:+ cs := hcs ▸ skip_suffix v cs
      exact (((h c (tight_of_skip hcs)).suffix hrest).trans (List.suffix_cons c cs')).trans hsuffix
  alike := by
    intro ds es hclosed
    have hskipped := hclosed.skip v
    rw [← hskip ds, ← hskip es]
    generalize hes : Pattern.skip v es = es' at hskipped ⊢
    generalize Pattern.skip v ds = ds' at hskipped ⊢
    cases hskipped with
    | lost => rw [hnil]; exact .none
    | here =>
      cases es' with
      | nil =>
        -- the reader takes the closing parenthesis, and leaves no more than the end of the closing
        exact .of_suffix fun x rest hrest => ((h ')' (tight_closing v)).suffix hrest).trans hstop
      | cons c es' => exact (h c (tight_of_skip hes)).alike (.here es')

/-- A reader that begins in one way at a mark and in another way elsewhere, after blanks. -/
theorem Reads.mark (v : Bool) (c : Char) {f g k : Reader α} (hc : c ≠ ')')
    (hskip : ∀ cs, f (Pattern.skip v cs) = f cs) (hmark : ∀ rest, f (c :: rest) = g rest)
    (helse : ∀ cs, Pattern.skip v cs = cs → cs.head? ≠ some c → f cs = k cs)
    (hg : Reads stop g) (hk : Reads stop k) : Reads stop f where
  suffix := by
    intro cs x rest hrest
    rw [← hskip] at hrest
    refine List.IsSuffix.trans ?_ (skip_suffix v cs)
    by_cases hhead : (Pattern.skip v cs).head? = some c
    · obtain ⟨cs', hcs'⟩ := List.head?_eq_some_iff.mp hhead
      rw [hcs', hmark] at hrest
      rw [hcs']
      exact (hg.suffix hrest).trans (List.suffix_cons c cs')
    · rw [helse _ (skip_skip v cs) hhead] at hrest
      exact hk.suffix hrest
  alike := by
    intro ds es hclosed
    rw [← hskip ds, ← hskip es]
    have hskipped := hclosed.skip v
    by_cases hhead : (Pattern.skip v es).head? = some c
    · obtain ⟨es', hes'⟩ := List.head?_eq_some_iff.mp hhead
      rw [hes'] at hskipped ⊢
      generalize Pattern.skip v ds = ds' at hskipped ⊢
      cases hskipped
      rw [hmark, List.cons_append, hmark]
      exact hg.alike (.here es')
    · have hhead' : (Pattern.skip v ds).head? ≠ some c := by
        generalize Pattern.skip v ds = ds' at hskipped ⊢
        generalize Pattern.skip v es = es' at hskipped hhead
        cases hskipped with
        | lost => exact hhead
        | here =>
          cases es' with
          | nil => simpa [closing] using hc.symm
          | cons c' es => exact hhead
      rw [helse _ (skip_skip v es) hhead, helse _ (skip_skip v ds) hhead']
      exact hk.alike hskipped

/-! ## Escapes -/

theorem reads_readHexDigits (v : Bool) (n : Nat) : Reads ['$'] (readHexDigits v n) := by
  induction n with
  | zero => exact (Reads.pure []).congr fun cs => by rw [readHexDigits]
  | succ n ih =>
    refine .uncons false (List.suffix_refl _) (fun cs => rfl) rfl fun c _ => ?_
    refine (Reads.ite (!isHex c) .none ((ih.skip v).map (c :: ·))).congr fun rest => ?_
    rw [readHexDigits]
    split
    · rfl
    · cases readHexDigits v n (skip v rest) <;> rfl

theorem reads_readBraced_fuel (v : Bool) (fuel : Nat) : Reads ['$'] (readBraced v fuel) := by
  induction fuel with
  | zero => exact Reads.none.congr fun cs => by rw [readBraced]
  | succ fuel ih =>
    refine .uncons v (List.suffix_refl _) (fun cs => ?_) ?_ fun c htight => ?_
    · rw [readBraced, readBraced, skip_skip]
    · cases v <;> rfl
    · refine (Reads.ite (c = '\x7d') (.pure []) (ih.map (c :: ·))).congr fun rest => ?_
      rw [readBraced, htight]
      split
      · contradiction
      · simp_all
      · rename_i hne heq
        cases heq
        rw [if_neg (by rintro rfl; exact hne rfl)]
        cases readBraced v fuel rest <;> rfl

theorem skip_nil (v : Bool) : skip v [] = [] := by cases v <;> rfl

theorem readBraced_enough (v : Bool) (fuel : Nat) (cs : List Char) (h : cs.length ≤ fuel) :
    readBraced v (fuel + 1) cs = readBraced v fuel cs := by
  induction fuel generalizing cs with
  | zero =>
    obtain rfl := List.length_eq_zero_iff.mp (Nat.le_zero.mp h)
    cases v <;> rfl
  | succ fuel ih =>
    have hlength := length_skip_le v cs
    rw [readBraced, readBraced.eq_def v (fuel + 1)]
    dsimp only
    split
    · rfl
    · rfl
    · rename_i c rest hne hskip
      rw [hskip, List.length_cons] at hlength
      rw [ih rest (by omega)]

theorem reads_readBraced (v : Bool) : Reads ['$'] fun rest => readBraced v (rest.length + 1) rest :=
  .ofFuel 1 (reads_readBraced_fuel v) (readBraced_enough v)

theorem reads_readHex (v : Bool) (n : Nat) : Reads ['$'] (readHex v (n + 1)) := by
  have hbraced : Reads ['$'] fun rest => (readBraced v (rest.length + 1) rest).bind fun r =>
      if r.1.isEmpty || !r.1.all isHex then none
      else (hexChar? r.1).map fun c => (Escaped.literal c false, skip v r.2) :=
    (reads_readBraced v).bind fun ds =>
      .ite (ds.isEmpty || !ds.all isHex) .none
        ((Reads.option (hexChar? ds) (Escaped.literal · false)).skip v)
  have hdigits : Reads ['$'] fun cs => (readHexDigits v (n + 1) cs).bind fun r =>
      (hexChar? r.1).map fun c => (Escaped.literal c (n + 1 == 2), r.2) :=
    (reads_readHexDigits v (n + 1)).bind fun ds =>
      .option (hexChar? ds) (Escaped.literal · (n + 1 == 2))
  refine .mark v '\x7b' (by decide) (fun cs => ?_) (fun rest => ?_) (fun cs hskip hhead => ?_)
    hbraced hdigits
  · rw [readHex, readHex, skip_skip]
  · rw [readHex, tight_of_not_blank (by decide) (by decide)]
    split
    · contradiction
    · rename_i heq
      cases heq
      cases readBraced v (rest.length + 1) rest <;> rfl
    · rename_i hbrace
      exact absurd rfl (hbrace rest)
  · rw [readHex, hskip]
    split
    · rfl
    · exact absurd rfl hhead
    · cases readHexDigits v (n + 1) cs <;> rfl

/-- A Unicode class reads alike; the mark of another escape is no name. -/
theorem reads_readUnicode (v negated : Bool) : Reads ['$'] (readUnicode v negated) := by
  refine .uncons v (List.suffix_refl _) (fun cs => ?_) ?_ fun c htight => ?_
  · rw [readUnicode, readUnicode, skip_skip]
  · cases v <;> rfl
  · have hname : Reads ['$'] fun rest => (readBraced v (rest.length + 1) rest).map fun r =>
        (Escaped.unicode (unicodeQuery r.1) negated, r.2) :=
      (reads_readBraced v).map fun name => Escaped.unicode (unicodeQuery name) negated
    have hletter : Reads ['$'] fun rest =>
        some (Escaped.unicode (.named (String.singleton c)) negated, skip v rest) :=
      (Reads.pure (Escaped.unicode (.named (String.singleton c)) negated)).skip v
    refine (Reads.ite (c = '\\') .none (.ite (c = '\x7b') hname hletter)).congr fun rest => ?_
    rw [readUnicode, htight]
    split
    · contradiction
    · rename_i heq
      cases heq
      rfl
    · rename_i heq
      cases heq
      cases readBraced v (rest.length + 1) rest <;> rfl
    · rename_i hescape hbrace heq
      cases heq
      rw [if_neg (by rintro rfl; exact hescape rfl), if_neg (by rintro rfl; exact hbrace rfl)]

theorem reads_boundaryName_fuel (v : Bool) (fuel : Nat) :
    Reads ['$'] fun cs => some (boundaryName v fuel cs) := by
  induction fuel with
  | zero => exact .pure []
  | succ fuel ih =>
    have hmore : ∀ c, Reads ['$'] fun rest =>
        some (c :: (boundaryName v fuel rest).1, (boundaryName v fuel rest).2) :=
      fun c => ih.map (c :: ·)
    constructor
    · intro cs x rest h
      refine List.IsSuffix.trans ?_ (skip_suffix v cs)
      rw [boundaryName] at h
      generalize skip v cs = cs at h ⊢
      cases cs with
      | nil => cases h; exact List.suffix_refl _
      | cons c cs =>
        dsimp only at h
        split at h
        · exact ((hmore c).suffix h).trans (List.suffix_cons c cs)
        · cases h; exact List.suffix_refl _
    · intro ds es h
      have hskipped := h.skip v
      simp only [boundaryName]
      generalize skip v ds = ds at hskipped ⊢
      generalize skip v es = es at hskipped ⊢
      cases hskipped with
      | lost => exact .some .lost
      | here =>
        cases es with
        | nil => exact .some (.here [])
        | cons c es =>
          dsimp only [List.cons_append]
          split
          · exact (hmore c).alike (.here es)
          · exact .some (.here (c :: es))

theorem boundaryName_enough (v : Bool) (fuel : Nat) (cs : List Char) (h : cs.length ≤ fuel) :
    boundaryName v (fuel + 1) cs = boundaryName v fuel cs := by
  induction fuel generalizing cs with
  | zero =>
    obtain rfl := List.length_eq_zero_iff.mp (Nat.le_zero.mp h)
    cases v <;> rfl
  | succ fuel ih =>
    have hlength := length_skip_le v cs
    rw [boundaryName, boundaryName.eq_def v (fuel + 1)]
    dsimp only
    split
    · rfl
    · rename_i c rest hskip
      rw [hskip, List.length_cons] at hlength
      rw [ih rest (by omega)]

theorem reads_boundaryName (v : Bool) : Reads ['$'] fun cs => some (boundaryName v cs.length cs) :=
  .ofFuel 0 (reads_boundaryName_fuel v) fun fuel cs h => by rw [boundaryName_enough v fuel cs h]

/-- Whether an escape is the word boundary before a brace that its text ends after: no step of a
machine goes on there. -/
def Escaped.Stuck (v : Bool) (x : Escaped) (rest : List Char) : Prop :=
  x = .assertion .wordBoundary ∧ ∃ r, rest = '\x7b' :: r ∧ skip v r = closing

/-- A word boundary reads alike, but that braces which nothing stands in before the closing are left
to a repetition. -/
theorem readBoundary_alike {x : Escaped} (hclosed : Closed ds es)
    (h : readBoundary v ds = some (x, rest)) :
    (∃ r, Closed rest r ∧ readBoundary v es = some (x, r)) ∨ x.Stuck v rest := by
  by_cases hhead : es.head? = some '\x7b'
  · obtain ⟨es, rfl⟩ := List.head?_eq_some_iff.mp hhead
    cases hclosed
    have hskipped := (Closed.here es).skip v
    rw [List.cons_append, readBoundary] at h
    rw [readBoundary]
    generalize hds : skip v (es ++ closing) = ds' at hskipped h
    generalize skip v es = es' at hskipped ⊢
    cases hskipped with
    | lost => cases h
    | here =>
      cases es' with
      | nil =>
        -- the brace is the last of the pattern: alone it is an error, here the closing follows it
        cases h
        exact .inr ⟨rfl, _, rfl, hds⟩
      | cons c es' =>
        dsimp only [List.cons_append] at h ⊢
        split at h
        · rename_i hc
          cases h
          exact .inl ⟨'\x7b' :: es, .here ('\x7b' :: es), by rw [if_pos hc]⟩
        · rename_i hc
          rw [if_neg hc]
          split at h
          · rename_i name rest' hname
            rcases (reads_boundaryName v).alike (.here (c :: es')) _ _ (congrArg some hname) with
              ⟨r, hr, halone⟩ | hpast
            · obtain ⟨r', rfl, hr'⟩ := hr.uncons (by decide)
              have hname' : boundaryName v (es'.length + 1) (c :: es') = (name, '\x7d' :: r') :=
                Option.some.inj halone
              rw [hname']
              obtain ⟨a, ha, heq⟩ := Option.map_eq_some_iff.mp h
              cases heq
              exact .inl ⟨r', hr', Option.map_eq_some_iff.mpr ⟨a, ha, rfl⟩⟩
            · exact absurd hpast (not_suffix_dollar (by decide))
          · cases h
  · have hhead' : ds.head? ≠ some '\x7b' := by
      cases hclosed with
      | lost => exact hhead
      | here =>
        cases es with
        | nil => decide
        | cons c es => exact hhead
    rw [readBoundary.eq_2 v ds (by rintro r rfl; exact hhead' rfl)] at h
    cases h
    exact .inl ⟨es, hclosed, readBoundary.eq_2 v es (by rintro r rfl; exact hhead rfl)⟩

theorem readBoundary_suffix {x : Escaped} (h : readBoundary v cs = some (x, rest)) :
    rest <:+ cs := by
  unfold readBoundary at h
  split at h
  · rename_i cs'
    split at h
    · cases h
    · rename_i c cs'' hskip
      split at h
      · cases h
        exact List.suffix_refl _
      · split at h
        · rename_i name rest' hname
          obtain ⟨a, -, heq⟩ := Option.map_eq_some_iff.mp h
          cases heq
          have hname' : (fun cs => some (boundaryName v cs.length cs)) (c :: cs'') =
              some (name, '\x7d' :: rest) := congrArg some hname
          have hsuffix := (reads_boundaryName v).suffix hname'
          exact ((List.suffix_cons _ rest).trans hsuffix).trans
            ((hskip ▸ skip_suffix v cs').trans (List.suffix_cons _ cs'))
        · cases h
  · cases h
    exact List.suffix_refl _

/-- What an escape leaves. -/
theorem readEscape_suffix {c : Char} {x : Escaped} (h : readEscape v (c :: cs) = some (x, rest)) :
    rest <:+ cs := by
  unfold readEscape at h
  dsimp only at h
  split at h
  · exact (reads_readHex v 1).suffix h
  · exact (reads_readHex v 3).suffix h
  · exact (reads_readHex v 7).suffix h
  · exact (reads_readUnicode v false).suffix h
  · exact (reads_readUnicode v true).suffix h
  all_goals first
    | (cases h; exact List.suffix_refl _)
    | exact readBoundary_suffix h
    | (split at h <;> cases h; exact List.suffix_refl _)

/-- **An escape reads alike**, but for a word boundary that is stuck before a brace. -/
theorem readEscape_alike {x : Escaped} (hclosed : Closed ds es)
    (h : readEscape v ds = some (x, rest)) :
    (∃ r, Closed rest r ∧ readEscape v es = some (x, r)) ∨ rest <:+ ['$'] ∨ x.Stuck v rest := by
  cases hclosed with
  | lost => cases h
  | here =>
    cases es with
    | nil =>
      cases h
      exact .inr (.inl (List.suffix_refl _))
    | cons c es =>
      by_cases hb : c = 'b'
      · subst hb
        exact (readBoundary_alike (.here es) h).imp_right .inr
      · suffices halike :
            Alike ['$'] (readEscape v (c :: (es ++ closing))) (readEscape v (c :: es)) from
          (halike x rest h).imp_right .inl
        have hes : Closed (es ++ closing) es := .here es
        clear h
        unfold readEscape
        dsimp only
        split
        · exact (reads_readHex v 1).alike hes
        · exact (reads_readHex v 3).alike hes
        · exact (reads_readHex v 7).alike hes
        · exact (reads_readUnicode v false).alike hes
        · exact (reads_readUnicode v true).alike hes
        all_goals first
          | exact .some hes
          | exact absurd rfl hb
          | (split; exact .some hes; exact .none)

end Coordination.Text.Pattern
