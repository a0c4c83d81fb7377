import Coordination.Proofs.Text.Decimal
import Coordination.Text.Json.Fields
import Coordination.Text.Json.Printer
import Coordination.Text.Json.Reader
import Mathlib.Data.List.Basic

/-!
# Documents that are written and read again

A document in its compact form reads as the same document, whatever its strings hold. One thing is
not kept: a control character that has no escape of its own is written by its number, and comes back
as that number. It denotes the same text, so nobody who asks for texts can tell.

The machine that reads is followed through the written form: `reads` is its answer on what is left
of a text, and a written value takes it from where a value is wanted to where one has been found.

## Main definitions

* `Piece.reread`, `Json.reread`: what a document comes back as
* `Numeral.IsWellFormed`, `IsWritable`: numbers with the digits that numbers have, and documents
  with such numbers
* `reads`: the document that the rest of a text completes

## Main results

* `read?_compact`: what is written is read
* `text?_reread`: strings keep the texts that they denote
* `fields?_ofFields`: the fields of a record come back
-/

namespace Coordination.Text.Json

/-! ## Strings -/

theorem hexDigit?_hexDigit {n : Nat} (h : n < 16) : hexDigit? (hexDigit n) = some n := by
  have hall : ∀ n : Fin 16, hexDigit? (hexDigit n) = some n.val := by decide
  exact hall ⟨n, h⟩

/-- Four digits give the number that they have been taken from. -/
theorem hexUnit?_unitEscape {n : Nat} (h : n < 65536) :
    hexUnit? (hexDigit (n / 0x1000 % 16)) (hexDigit (n / 0x100 % 16)) (hexDigit (n / 0x10 % 16))
      (hexDigit (n % 16)) = some (UInt16.ofNat n) := by
  have hvalue :
      ((n / 0x1000 % 16 * 16 + n / 0x100 % 16) * 16 + n / 0x10 % 16) * 16 + n % 16 = n := by
    omega
  have hdigit : ∀ k, hexDigit? (hexDigit (k % 16)) = some (k % 16) :=
    fun k => hexDigit?_hexDigit (Nat.mod_lt k (by decide))
  simp only [hexUnit?, hdigit, Option.bind_eq_bind, Option.bind_some, Option.pure_def, hvalue]

/-- **What an element of a string comes back as.** A control character without an escape of its own
is written by its number. -/
def Piece.reread : Piece → Piece
  | .unit u => .unit u
  | .char c => if c.toNat < 0x20 ∧ c ∉ ['\x08', '\x0c', '\n', '\r', '\t'] then
      .unit (UInt16.ofNat c.toNat) else .char c

theorem stringBody_unitEscape {n : Nat} (h : n < 65536) (cs : List Char) :
    stringBody (unitEscape n ++ cs) =
      (stringBody cs).map fun r => (.unit (UInt16.ofNat n) :: r.1, r.2) := by
  simp only [unitEscape, List.cons_append, List.nil_append]
  rw [stringBody, hexUnit?_unitEscape h]

theorem stringBody_escape {e x : Char} (he : shortEscape? e = some x) (hne : e ≠ 'u')
    (cs : List Char) :
    stringBody ('\\' :: e :: cs) = (stringBody cs).map fun r => (.char x :: r.1, r.2) := by
  rw [stringBody.eq_4 _ _ fun _ _ _ _ _ h _ => hne h, he]

/-- A character that needs no escape. -/
theorem stringBody_plain {c : Char} (hquote : c ≠ '"') (hback : c ≠ '\\') (h : ¬ c.toNat < 0x20)
    (cs : List Char) :
    stringBody (c :: cs) = (stringBody cs).map fun r => (.char c :: r.1, r.2) := by
  rw [stringBody.eq_5 c cs (by simpa using hquote) (by simp [hback]) (by simp [hback]), if_neg h]

theorem stringBody_render (p : Piece) (cs : List Char) :
    stringBody (p.render ++ cs) = (stringBody cs).map fun r => (p.reread :: r.1, r.2) := by
  cases p with
  | unit u =>
    rw [Piece.render, stringBody_unitEscape u.toNat_lt, UInt16.ofNat_toNat]
    rfl
  | char c =>
    unfold Piece.render
    dsimp only
    split
    case h_8 _ hquote hback hbell hfeed hline hreturn htab =>
      have hshort : c ∉ ['\x08', '\x0c', '\n', '\r', '\t'] := by
        simpa using ⟨hbell, hfeed, hline, hreturn, htab⟩
      rw [Piece.reread]
      by_cases hc : c.toNat < 0x20
      · rw [if_pos hc, if_pos ⟨hc, hshort⟩, stringBody_unitEscape (Nat.lt_trans hc (by decide))]
      · rw [if_neg hc, if_neg fun h => hc h.1]
        exact stringBody_plain hquote hback hc cs
    all_goals exact stringBody_escape rfl (by decide) cs

/-- A string is read up to the quote that ends it. -/
theorem stringBody_flatMap_render (l : Literal) (cs : List Char) :
    stringBody (l.flatMap Piece.render ++ '"' :: cs) = some (l.map Piece.reread, cs) := by
  induction l with
  | nil => simp [stringBody]
  | cons p l ih =>
    rw [List.flatMap_cons, List.append_assoc, stringBody_render, ih]
    rfl

theorem chars?_map_reread (cs : List Char) :
    Literal.chars? ((cs.map Piece.char).map Piece.reread) = some cs := by
  induction cs with
  | nil => rfl
  | cons c cs ih =>
    rw [List.map_cons, List.map_cons, Piece.reread]
    split
    · rename_i hc
      -- a control character is far below the surrogates
      have hunit : (UInt16.ofNat c.toNat).toNat = c.toNat :=
        UInt16.toNat_ofNat_of_lt' (Nat.lt_trans hc.1 (by decide))
      have hlow : isLowSurrogate (UInt16.ofNat c.toNat) = false := by
        simp only [isLowSurrogate, Bool.and_eq_false_iff, decide_eq_false_iff_not,
          UInt16.le_iff_toNat_le, hunit]
        exact .inl fun h => absurd (Nat.lt_of_le_of_lt h hc.1) (by decide)
      have hhigh : isHighSurrogate (UInt16.ofNat c.toNat) = false := by
        simp only [isHighSurrogate, Bool.and_eq_false_iff, decide_eq_false_iff_not,
          UInt16.le_iff_toNat_le, hunit]
        exact .inl fun h => absurd (Nat.lt_of_le_of_lt h hc.1) (by decide)
      unfold Literal.chars?
      simp only [hlow, hhigh, ih, hunit, Char.ofNat_toNat, Bool.false_eq_true, if_false,
        Option.map_some]
    · rw [Literal.chars?, ih]
      rfl

/-- **A string that is read again denotes the same text.** -/
theorem text?_reread (s : String) :
    Literal.text? ((Literal.ofText s).map Piece.reread) = some s := by
  rw [Literal.text?, Literal.ofText, chars?_map_reread, Option.map_some, String.ofList_toList]

/-! ## Numbers -/

/-- **Whether the digits of a number are those of a number**: there are some wherever digits stand,
and no needless zero comes first. -/
structure Numeral.IsWellFormed (n : Numeral) : Prop where
  whole : n.whole ≠ [] ∧ ∀ c ∈ n.whole, c.isDigit
  noZero : n.whole.head? = some '0' → n.whole = ['0']
  fraction : ∀ ds, n.fraction = some ds → ds ≠ [] ∧ ∀ c ∈ ds, c.isDigit
  exponent : ∀ negative ds, n.exponent = some (negative, ds) → ds ≠ [] ∧ ∀ c ∈ ds, c.isDigit

/-- Whether what follows a value cannot be taken for a part of it. -/
def Closes (cs : List Char) : Prop := ∀ c, cs.head? = some c → c ∈ [',', ']', '\x7d']

theorem takeWhile_isDigit_append {ds cs : List Char} (hds : ∀ c ∈ ds, c.isDigit)
    (hcs : ∀ c, cs.head? = some c → c.isDigit = false) :
    (ds ++ cs).takeWhile Char.isDigit = ds ∧ (ds ++ cs).dropWhile Char.isDigit = cs := by
  rw [List.takeWhile_append_of_pos hds, List.dropWhile_append_of_pos hds]
  cases cs with
  | nil => simp
  | cons c cs => simp [hcs c rfl]

/-- How an exponent is written. -/
def exponentChars (e : Option (Bool × List Char)) : List Char :=
  match e with
  | none => []
  | some (negative, ds) => 'e' :: (if negative then '-' :: ds else ds)

/-- How a fraction is written. -/
def fractionChars (f : Option (List Char)) : List Char :=
  match f with
  | none => []
  | some ds => '.' :: ds

theorem Numeral.render_eq (n : Numeral) :
    n.render = (if n.negative then ['-'] else []) ++
      (n.whole ++ (fractionChars n.fraction ++ exponentChars n.exponent)) := by
  rw [Numeral.render, List.append_assoc, List.append_assoc]
  cases n.fraction <;> cases n.exponent <;> rfl

variable {cs : List Char}

theorem Closes.isDigit_eq_false (h : Closes cs) : ∀ c, cs.head? = some c → c.isDigit = false := by
  intro c hc
  have hall : ∀ c ∈ [',', ']', '\x7d'], c.isDigit = false := by simp
  exact hall c (h c hc)

theorem exponentPart_exponentChars {e : Option (Bool × List Char)}
    (he : ∀ negative ds, e = some (negative, ds) → ds ≠ [] ∧ ∀ c ∈ ds, c.isDigit)
    (hcs : Closes cs) : exponentPart (exponentChars e ++ cs) = some (e, cs) := by
  match e with
  | none =>
    match cs with
    | [] => rfl
    | c :: cs =>
      have hall : ∀ c ∈ [',', ']', '\x7d'], ¬ (c = 'e' ∨ c = 'E') := by simp
      simp only [exponentChars, List.nil_append, exponentPart, if_neg (hall c (hcs c rfl))]
  | some (negative, ds) =>
    obtain ⟨hne, hds⟩ := he negative ds rfl
    have hdigits : ∀ negative, exponentDigits negative (ds ++ cs) =
        some (some (negative, ds), cs) := by
      intro negative
      obtain ⟨htake, hdrop⟩ := takeWhile_isDigit_append hds hcs.isDigit_eq_false
      rw [exponentDigits, htake, hdrop, if_neg (by simpa using hne)]
    cases negative with
    | true => exact hdigits true
    | false =>
      obtain ⟨d, ds, rfl⟩ := List.exists_cons_of_ne_nil hne
      have hd : d.isDigit := hds d List.mem_cons_self
      have hsign : d ≠ '-' ∧ d ≠ '+' := ⟨by rintro rfl; simp at hd, by rintro rfl; simp at hd⟩
      simp only [exponentChars, Bool.false_eq_true, if_false, List.cons_append, exponentPart,
        true_or, if_true]
      split
      · rename_i heq
        exact absurd (List.cons.inj heq).1 hsign.1
      · rename_i heq
        exact absurd (List.cons.inj heq).1 hsign.2
      · exact hdigits false

theorem fractionPart_fractionChars {n : Numeral} (hn : n.IsWellFormed) (hcs : Closes cs) :
    fractionPart (fractionChars n.fraction ++ (exponentChars n.exponent ++ cs)) =
      some (n.fraction, exponentChars n.exponent ++ cs) := by
  have hnext : ∀ c, (exponentChars n.exponent ++ cs).head? = some c →
      c ≠ '.' ∧ c.isDigit = false := by
    intro c hc
    match hexp : n.exponent with
    | none =>
      have hall : ∀ c ∈ [',', ']', '\x7d'], c ≠ '.' ∧ c.isDigit = false := by simp
      rw [hexp, exponentChars, List.nil_append] at hc
      exact hall c (hcs c hc)
    | some (negative, ds) =>
      rw [hexp, exponentChars, List.cons_append, List.head?_cons, Option.some.injEq] at hc
      subst hc
      decide
  match hfrac : n.fraction with
  | none =>
    rw [fractionChars, List.nil_append, fractionPart.eq_2]
    intro rest hrest
    exact (hnext '.' (by rw [hrest]; rfl)).1 rfl
  | some ds =>
    obtain ⟨hne, hds⟩ := hn.fraction ds hfrac
    obtain ⟨htake, hdrop⟩ := takeWhile_isDigit_append hds fun c hc => (hnext c hc).2
    rw [fractionChars, List.cons_append, fractionPart, htake, hdrop, if_neg (by simpa using hne)]

/-- A number is read up to what closes it. -/
theorem numberBody_render {n : Numeral} (hn : n.IsWellFormed) (hcs : Closes cs) :
    ∃ d ds, n.whole = d :: ds ∧ d.isDigit ∧
      numberBody n.negative d
        (ds ++ (fractionChars n.fraction ++ exponentChars n.exponent) ++ cs) = some (n, cs) := by
  obtain ⟨d, ds, hwhole⟩ := List.exists_cons_of_ne_nil hn.whole.1
  have hdigits : ∀ c ∈ d :: ds, c.isDigit := hwhole ▸ hn.whole.2
  have hd : d.isDigit := hdigits d List.mem_cons_self
  have hnext : ∀ c, (fractionChars n.fraction ++ (exponentChars n.exponent ++ cs)).head? = some c →
      c.isDigit = false := by
    intro c hc
    cases hfrac : n.fraction with
    | some fs =>
      rw [hfrac, fractionChars, List.cons_append, List.head?_cons, Option.some.injEq] at hc
      subst hc
      decide
    | none =>
      rw [hfrac, fractionChars, List.nil_append] at hc
      cases hexp : n.exponent with
      | none => exact hcs.isDigit_eq_false c (by rwa [hexp, exponentChars, List.nil_append] at hc)
      | some e =>
        rw [hexp, exponentChars, List.cons_append, List.head?_cons, Option.some.injEq] at hc
        subst hc
        decide
  obtain ⟨htake, hdrop⟩ :=
    takeWhile_isDigit_append (fun c hc => hdigits c (List.mem_cons_of_mem d hc)) hnext
  have hzero : ¬ (d = '0' ∧ (!ds.isEmpty) = true) := by
    rintro ⟨rfl, hmore⟩
    have hall := hn.noZero (by rw [hwhole]; rfl)
    rw [hwhole, List.cons.injEq] at hall
    simp [hall.2] at hmore
  refine ⟨d, ds, hwhole, hd, ?_⟩
  rw [List.append_assoc, List.append_assoc, numberBody, htake, hdrop, if_neg (by simp [hd]),
    if_neg hzero, fractionPart_fractionChars hn hcs]
  simp only [Option.bind_eq_bind, Option.bind_some, exponentPart_exponentChars hn.exponent hcs,
    Option.pure_def, Option.some.injEq, Prod.mk.injEq, and_true]
  rw [← hwhole]

/-- The token of a number, and the character that it starts with. -/
theorem token_numeral {n : Numeral} (hn : n.IsWellFormed) (hcs : Closes cs) :
    ∃ c rest, n.render ++ cs = c :: rest ∧ c ≠ ']' ∧ isBlank c = false ∧
      token c rest = some (.number n, cs) := by
  obtain ⟨d, ds, hwhole, hd, hbody⟩ := numberBody_render hn hcs
  -- no other token starts with a digit
  have hother : ∀ c ∈ ['[', ']', '\x7b', '\x7d', ',', ':', '"', 'n', 't', 'f', '-', ' ', '\n',
      '\t', '\r'], d ≠ c := by
    have hall : ∀ c ∈ ['[', ']', '\x7b', '\x7d', ',', ':', '"', 'n', 't', 'f', '-', ' ', '\n',
      '\t', '\r'], c.isDigit = false := by simp
    rintro c hc rfl
    rw [hall d hc] at hd
    cases hd
  simp only [List.forall_mem_cons, List.not_mem_nil, false_imp_iff, implies_true, and_true]
    at hother
  rw [Numeral.render_eq, hwhole]
  cases hneg : n.negative with
  | true =>
    rw [hneg] at hbody
    refine ⟨'-', d :: (ds ++ (fractionChars n.fraction ++ exponentChars n.exponent) ++ cs), rfl,
      by decide, by decide, ?_⟩
    simp only [token]
    rw [hbody]
    rfl
  | false =>
    rw [hneg] at hbody
    refine ⟨d, ds ++ (fractionChars n.fraction ++ exponentChars n.exponent) ++ cs, rfl, hother.2.1,
      ?_, ?_⟩
    · simp [isBlank, hother]
    · unfold token
      split
      case h_12 =>
        rw [hbody]
        rfl
      all_goals
        simp at hother

/-! ## The machine -/

/-- The document that the rest of a text completes, given what is open and what may come next. -/
def reads (cs : List Char) (state : List Frame × Goal) : Option Json :=
  (tokens cs).bind fun ts => readTokens ts state.1 state.2

variable {frames : List Frame} {goal : Goal} {state : List Frame × Goal} {c : Char}
  {rest : List Char} {t : Token}

theorem tokens_cons (hblank : isBlank c = false) (ht : token c cs = some (t, rest)) :
    tokens (c :: cs) = (tokens rest).map (t :: ·) := by
  rw [tokens, hblank, if_neg Bool.false_ne_true]
  split
  · rename_i hnone
    rw [ht] at hnone
    cases hnone
  · rename_i hsome
    obtain ⟨rfl, rfl⟩ : t = _ ∧ rest = _ := by simpa using ht.symm.trans hsome
    rfl

/-- The machine takes one step for each token. -/
theorem reads_token (hblank : isBlank c = false) (ht : token c cs = some (t, rest))
    (hstep : step t frames goal = some state) :
    reads (c :: cs) (frames, goal) = reads rest state := by
  rw [reads, tokens_cons hblank ht, Option.bind_map, reads]
  congr 1
  funext ts
  rw [Function.comp_apply, readTokens, hstep]

/-- In an array that has just been opened a value is wanted, unless the array ends at once. -/
theorem reads_firstItem (hblank : isBlank c = false) (hclose : c ≠ ']')
    (ht : token c cs = some (t, rest)) :
    reads (c :: cs) (frames, .firstItem) = reads (c :: cs) (.array [] :: frames, .value) := by
  have hne : t ≠ .arrayClose := by
    rintro rfl
    unfold token at ht
    split at ht
    case h_8 | h_9 | h_10 | h_11 => split at ht <;> simp at ht
    all_goals simp_all
  have hstep : step t frames .firstItem = step t (.array [] :: frames) .value := by
    cases t <;> first | rfl | exact absurd rfl hne
  rw [reads, tokens_cons hblank ht, Option.bind_map, reads, tokens_cons hblank ht, Option.bind_map]
  congr 1
  funext ts
  simp only [Function.comp_apply, readTokens, hstep]

mutual

/-- **What a document comes back as.** -/
def reread : Json → Json
  | .null => .null
  | .bool b => .bool b
  | .number n => .number n
  | .string s => .string (s.map Piece.reread)
  | .array items => .array (rereadItems items)
  | .object members => .object (rereadMembers members)

/-- What the items of an array come back as. -/
def rereadItems : List Json → List Json
  | [] => []
  | v :: vs => reread v :: rereadItems vs

/-- What the members of an object come back as. -/
def rereadMembers : List (Literal × Json) → List (Literal × Json)
  | [] => []
  | (k, v) :: ms => (k.map Piece.reread, reread v) :: rereadMembers ms

end

/-- **Whether the numbers of a document have the digits that numbers have.** -/
inductive IsWritable : Json → Prop where
  | null : IsWritable .null
  | bool (b : Bool) : IsWritable (.bool b)
  | number {n : Numeral} (h : n.IsWellFormed) : IsWritable (.number n)
  | string (s : Literal) : IsWritable (.string s)
  | array {items : List Json} (h : ∀ v ∈ items, IsWritable v) : IsWritable (.array items)
  | object {members : List (Literal × Json)} (h : ∀ m ∈ members, IsWritable m.2) :
      IsWritable (.object members)

/-- Whether the machine takes the written form of a value for this value, wherever a value is
wanted. -/
structure ReadsBack (v : Json) : Prop where
  /-- The value is found where it is wanted. -/
  value : ∀ (cs : List Char) (frames : List Frame), Closes cs →
    reads (render v ++ cs) (frames, .value) = reads cs (finish (reread v) frames)
  /-- It is wanted as the first item of an array too. -/
  firstItem : ∀ (cs : List Char) (frames : List Frame), Closes cs →
    reads (render v ++ cs) (frames, .firstItem) =
      reads (render v ++ cs) (.array [] :: frames, .value)

theorem closes_cons (h : c ∈ [',', ']', '\x7d']) (cs : List Char) : Closes (c :: cs) := by
  intro d hd
  obtain rfl := Option.some.inj hd
  exact h

/-- A value that is one token. -/
theorem ReadsBack.of_token {v : Json}
    (h : ∀ cs, Closes cs → ∃ c rest t, render v ++ cs = c :: rest ∧ c ≠ ']' ∧ isBlank c = false ∧
      token c rest = some (t, cs) ∧
      ∀ frames, startValue t frames = some (finish (reread v) frames)) :
    ReadsBack v where
  value cs frames hcs := by
    obtain ⟨c, rest, t, hrender, -, hblank, ht, hstart⟩ := h cs hcs
    rw [hrender]
    exact reads_token hblank ht (hstart frames)
  firstItem cs frames hcs := by
    obtain ⟨c, rest, t, hrender, hclose, hblank, ht, -⟩ := h cs hcs
    rw [hrender]
    exact reads_firstItem hblank hclose ht

theorem readsBack_string (s : Literal) : ReadsBack (.string s) := by
  refine .of_token fun cs _ => ⟨'"', s.flatMap Piece.render ++ '"' :: cs,
    .string (s.map Piece.reread), ?_, by decide, by decide, ?_, fun _ => rfl⟩
  · simp [render, Literal.render]
  · simp only [token, stringBody_flatMap_render]
    rfl

theorem readsBack_number {n : Numeral} (hn : n.IsWellFormed) : ReadsBack (.number n) := by
  refine .of_token fun cs hcs => ?_
  obtain ⟨c, rest, hrender, hclose, hblank, ht⟩ := token_numeral hn hcs
  exact ⟨c, rest, .number n, hrender, hclose, hblank, ht, fun _ => rfl⟩

/-- The items of an array, of which there is one at least, and those before them. -/
theorem reads_items {v : Json} {vs done : List Json} (h : ∀ v' ∈ v :: vs, ReadsBack v')
    (cs : List Char) (frames : List Frame) :
    reads (commaJoined (renderItems (v :: vs)) ++ ']' :: cs) (.array done :: frames, .value) =
      reads cs (finish (.array (done.reverse ++ rereadItems (v :: vs))) frames) := by
  induction vs generalizing v done with
  | nil =>
    have hv : ReadsBack v := h v List.mem_cons_self
    rw [renderItems, renderItems, commaJoined, hv.value _ _ (closes_cons (by decide) cs)]
    have hend : reads (']' :: cs) (frames, .afterItem (reread v :: done)) =
        reads cs (finish (.array (reread v :: done).reverse) frames) :=
      reads_token (by decide) rfl rfl
    rw [finish, hend, rereadItems, rereadItems, List.reverse_cons]
  | cons w vs ih =>
    obtain ⟨hv, hvs⟩ := List.forall_mem_cons.mp h
    rw [renderItems, renderItems, commaJoined, List.append_assoc, List.cons_append,
      hv.value _ _ (closes_cons (by decide) _), finish, reads_token (by decide) rfl rfl,
      ← renderItems, ih hvs, rereadItems, List.reverse_cons, List.append_assoc]
    · rfl
    · simp

/-- The members of an object, of which there is one at least, and those before them. -/
theorem reads_members {m : Literal × Json} {ms done : List (Literal × Json)}
    (h : ∀ m' ∈ m :: ms, ReadsBack m'.2) (cs : List Char) (frames : List Frame) :
    reads (commaJoined (renderMembers (m :: ms)) ++ '\x7d' :: cs) (frames, .nextKey done) =
      reads cs (finish (.object (done.reverse ++ rereadMembers (m :: ms))) frames) := by
  -- a member up to what stands after its value
  have hmember : ∀ (m : Literal × Json) (done : List (Literal × Json)) (cs : List Char),
      ReadsBack m.2 → Closes cs →
      reads (m.1.render ++ ':' :: render m.2 ++ cs) (frames, .nextKey done) =
        reads cs (frames, .afterMember ((m.1.map Piece.reread, reread m.2) :: done)) := by
    intro m done cs hm hcs
    have hkey : token '"' (m.1.flatMap Piece.render ++ '"' :: (':' :: (render m.2 ++ cs))) =
        some (.string (m.1.map Piece.reread), ':' :: (render m.2 ++ cs)) := by
      simp only [token, stringBody_flatMap_render]
      rfl
    have hchars : m.1.render ++ ':' :: render m.2 ++ cs =
        '"' :: (m.1.flatMap Piece.render ++ '"' :: (':' :: (render m.2 ++ cs))) := by
      simp [Literal.render]
    rw [hchars, reads_token (by decide) hkey rfl, reads_token (by decide) rfl rfl,
      hm.value _ _ hcs, finish]
  induction ms generalizing m done with
  | nil =>
    have hm : ReadsBack m.2 := h m List.mem_cons_self
    have hend : reads ('\x7d' :: cs)
          (frames, .afterMember ((m.1.map Piece.reread, reread m.2) :: done)) =
        reads cs (finish (.object ((m.1.map Piece.reread, reread m.2) :: done).reverse) frames) :=
      reads_token (by decide) rfl rfl
    rw [renderMembers, renderMembers, commaJoined, hmember m done _ hm (closes_cons (by decide) cs),
      hend, rereadMembers, rereadMembers, List.reverse_cons]
  | cons n ms ih =>
    obtain ⟨hm, hms⟩ := List.forall_mem_cons.mp h
    rw [renderMembers, renderMembers, commaJoined, List.append_assoc, List.cons_append,
      hmember m done _ hm (closes_cons (by decide) _), reads_token (by decide) rfl rfl,
      ← renderMembers, ih hms, rereadMembers, List.reverse_cons, List.append_assoc]
    · rfl
    · simp

theorem readsBack_array {items : List Json} (h : ∀ v ∈ items, ReadsBack v) :
    ReadsBack (.array items) := by
  refine ⟨fun cs frames _ => ?_, fun cs frames _ => reads_firstItem (by decide) (by decide) rfl⟩
  rw [render, List.cons_append, List.cons_append, reads_token (by decide) rfl rfl,
    List.append_assoc]
  cases items with
  | nil =>
    rw [renderItems, commaJoined]
    exact reads_token (by decide) rfl rfl
  | cons v vs =>
    have hcomma : ∃ more, commaJoined (renderItems (v :: vs)) ++ ([']'] ++ cs) = render v ++ more ∧
        Closes more := by
      cases vs with
      | nil => exact ⟨']' :: cs, rfl, closes_cons (by decide) cs⟩
      | cons w vs =>
        refine ⟨',' :: (commaJoined (renderItems (w :: vs)) ++ ([']'] ++ cs)), ?_,
          closes_cons (by decide) _⟩
        simp [renderItems, commaJoined]
    obtain ⟨more, hmore, hcloses⟩ := hcomma
    rw [hmore, (h v List.mem_cons_self).firstItem _ _ hcloses, ← hmore]
    exact reads_items h cs frames

theorem readsBack_object {members : List (Literal × Json)} (h : ∀ m ∈ members, ReadsBack m.2) :
    ReadsBack (.object members) := by
  refine ⟨fun cs frames _ => ?_, fun cs frames _ => reads_firstItem (by decide) (by decide) rfl⟩
  rw [render, List.cons_append, List.cons_append, reads_token (by decide) rfl rfl,
    List.append_assoc]
  cases members with
  | nil =>
    rw [renderMembers, commaJoined]
    exact reads_token (by decide) rfl rfl
  | cons m ms =>
    -- the first name may stand where any other may
    have hfirst : ∀ rest, reads (m.1.render ++ rest) (frames, .firstKey) =
        reads (m.1.render ++ rest) (frames, .nextKey []) := by
      intro rest
      have hkey : token '"' (m.1.flatMap Piece.render ++ '"' :: rest) =
          some (.string (m.1.map Piece.reread), rest) := by
        simp only [token, stringBody_flatMap_render]
        rfl
      have hchars : m.1.render ++ rest = '"' :: (m.1.flatMap Piece.render ++ '"' :: rest) := by
        simp [Literal.render]
      rw [hchars, reads_token (by decide) hkey rfl, reads_token (by decide) hkey rfl]
    have hcomma : ∃ more, commaJoined (renderMembers (m :: ms)) ++ (['\x7d'] ++ cs) =
        m.1.render ++ more := by
      cases ms <;> simp [renderMembers, commaJoined]
    obtain ⟨more, hmore⟩ := hcomma
    rw [hmore, hfirst, ← hmore]
    exact reads_members h cs frames

-- Values are nested in lists, so the recursion is on the size of a value.
theorem readsBack : (v : Json) → IsWritable v → ReadsBack v
  | .null, _ => .of_token fun cs _ =>
      ⟨'n', 'u' :: 'l' :: 'l' :: cs, .null, rfl, by decide, by decide, rfl, fun _ => rfl⟩
  | .bool true, _ => .of_token fun cs _ =>
      ⟨'t', 'r' :: 'u' :: 'e' :: cs, .bool true, rfl, by decide, by decide, rfl, fun _ => rfl⟩
  | .bool false, _ => .of_token fun cs _ =>
      ⟨'f', 'a' :: 'l' :: 's' :: 'e' :: cs, .bool false, rfl, by decide, by decide, rfl,
        fun _ => rfl⟩
  | .number _, h => readsBack_number (by cases h; assumption)
  | .string s, _ => readsBack_string s
  | .array items, h => readsBack_array fun v hv =>
      readsBack v (by cases h with | array h => exact h v hv)
  | .object members, h => readsBack_object fun m hm =>
      readsBack m.2 (by cases h with | object h => exact h m hm)
termination_by v => sizeOf v
decreasing_by
  · have := List.sizeOf_lt_of_mem hv
    simp only [array.sizeOf_spec]
    omega
  · have := List.sizeOf_lt_of_mem hm
    have : sizeOf m.2 < sizeOf m := by
      cases m
      simp only [Prod.mk.sizeOf_spec]
      omega
    simp only [object.sizeOf_spec]
    omega

/-- **What is written is read.** -/
theorem read?_compact {v : Json} (h : IsWritable v) : read? (compact v) = some (reread v) := by
  have hreads := (readsBack v h).value [] [] (by rintro c hc; cases hc)
  rw [List.append_nil] at hreads
  rw [read?, compact, String.toList_ofList]
  exact hreads.trans (by rw [reads, tokens]; rfl)

/-! ## Records -/

variable {α : Type}

@[simp] theorem text?_reread_ofText (s : String) : (reread (ofText s)).text? = some s := by
  rw [ofText, reread, text?, text?_reread]

theorem digitsValue_append (ds : List Char) (d : Char) :
    digitsValue (ds ++ [d]) = 10 * digitsValue ds + (d.toNat - 48) := by
  rw [digitsValue, List.foldl_append]
  rfl

theorem toNat_digitChar {n : Nat} (h : n < 10) : (Nat.digitChar n).toNat - 48 = n := by
  have hall : ∀ n : Fin 10, (Nat.digitChar n).toNat - 48 = n.val := by decide
  exact hall ⟨n, h⟩

theorem digitsValue_toDigits (n : Nat) : digitsValue (Nat.toDigits 10 n) = n := by
  induction n using Nat.strongRecOn with
  | ind n ih =>
    rcases Nat.lt_or_ge n 10 with hlt | hge
    · rw [Nat.toDigits_of_lt_base hlt]
      exact (digitsValue_append [] _).trans (by rw [toNat_digitChar hlt]; simp [digitsValue])
    · rw [Nat.toDigits_of_base_le (by decide) hge, digitsValue_append, ih (n / 10) (by omega),
        toNat_digitChar (Nat.mod_lt n (by decide))]
      omega

theorem head?_toDigits {n : Nat} (h : (Nat.toDigits 10 n).head? = some '0') : n = 0 := by
  induction n using Nat.strongRecOn with
  | ind n ih =>
    rcases Nat.lt_or_ge n 10 with hlt | hge
    · have hall : ∀ n : Fin 10, Nat.digitChar n = '0' → n.val = 0 := by decide
      rw [Nat.toDigits_of_lt_base hlt, List.head?_cons, Option.some.injEq] at h
      exact hall ⟨n, hlt⟩ h
    · rw [Nat.toDigits_of_base_le (by decide) hge,
        List.head?_append_of_ne_nil _ Nat.toDigits_ne_nil] at h
      have := ih (n / 10) (by omega) h
      omega

theorem isWritable_ofNat (n : Nat) : IsWritable (ofNat n) := by
  refine .number ⟨⟨Nat.toDigits_ne_nil, fun c hc => ?_⟩, fun hzero => ?_, nofun, nofun⟩
  · exact Decimal.isDigit_of_mem_digits hc
  · have hn : (n : Int).natAbs = 0 := head?_toDigits hzero
    rw [Numeral.ofInt, hn]
    rfl

theorem natural?_reread_ofNat {limit n : Nat} (h : n ≤ limit) :
    (reread (ofNat n)).natural? limit = some n := by
  have hsign : decide ((n : Int) < 0) = false := by simp
  have hvalue : (Numeral.ofInt n).natural? = some n := by
    simp only [Numeral.natural?, Numeral.ofInt, hsign, Option.isSome_none, Bool.or_self,
      Bool.false_eq_true, if_false, Int.natAbs_natCast, digitsValue_toDigits]
  rw [ofNat, ofInt, reread, natural?, hvalue, Option.filter_some, if_pos (by simpa using h)]

/-- The members of a record that are given, as they come back. -/
def given (fs : List (String × Option Json)) : List (String × Json) :=
  fs.filterMap fun f => f.2.map fun v => (f.1, reread v)

theorem namedMembers?_rereadMembers (fs : List (String × Option Json)) :
    namedMembers? (rereadMembers (fs.filterMap fun f => f.2.map fun v => (Literal.ofText f.1, v))) =
      some (given fs) := by
  induction fs with
  | nil => rfl
  | cons f fs ih =>
    obtain ⟨name, v⟩ := f
    cases v with
    | none => exact ih
    | some v =>
      simp only [List.filterMap_cons, Option.map_some, rereadMembers, namedMembers?, text?_reread,
        ih, given]

theorem filter_given_of_notMem {fs : List (String × Option Json)} {name : String}
    (h : name ∉ fs.map (·.1)) : (given fs).filter (·.1 == name) = [] := by
  rw [List.filter_eq_nil_iff]
  intro m hm
  obtain ⟨f, hf, hfm⟩ := List.mem_filterMap.mp hm
  obtain ⟨v, -, rfl⟩ := Option.map_eq_some_iff.mp hfm
  have hne : f.1 ≠ name := fun heq => h (heq ▸ List.mem_map_of_mem hf)
  simpa using hne

theorem filter_given {fs : List (String × Option Json)} (hnames : (fs.map (·.1)).Nodup)
    {f : String × Option Json} (hf : f ∈ fs) :
    (given fs).filter (·.1 == f.1) = (f.2.map fun v => (f.1, reread v)).toList := by
  induction fs with
  | nil => cases hf
  | cons g fs ih =>
    obtain ⟨hg, hnames⟩ := List.nodup_cons.mp hnames
    have hcons : given (g :: fs) = (g.2.map fun v => (g.1, reread v)).toList ++ given fs := by
      rw [given, List.filterMap_cons]
      cases g.2 <;> rfl
    rw [hcons, List.filter_append]
    rcases List.mem_cons.mp hf with rfl | hf
    · rw [filter_given_of_notMem hg, List.append_nil]
      cases f.2 <;> simp
    · have hne : (g.1 == f.1) = false := by
        simpa using fun heq : g.1 = f.1 => hg (List.mem_map.mpr ⟨f, hf, heq.symm⟩)
      rw [ih hnames hf]
      cases g.2 <;> simp [hne]

theorem mapM_eq_some_map {β : Type} {f : α → Option β} {g : α → β} {xs : List α}
    (h : ∀ x ∈ xs, f x = some (g x)) : xs.mapM f = some (xs.map g) := by
  induction xs with
  | nil => rfl
  | cons x xs ih =>
    obtain ⟨hx, hxs⟩ := List.forall_mem_cons.mp h
    rw [List.mapM_cons, hx, ih hxs]
    rfl

/-- **The fields of a record come back**, each in its place, those that are left out included. -/
theorem fields?_ofFields (closed : Bool) {fs : List (String × Option Json)}
    (hnames : (fs.map (·.1)).Nodup) :
    (reread (ofFields fs)).fields? closed (fs.map (·.1)) =
      some (fs.map fun f => f.2.map reread) := by
  have hknown : ((given fs).any fun m => !(fs.map (·.1)).contains m.1) = false := by
    rw [List.any_eq_false]
    intro m hm
    obtain ⟨f, hf, hfm⟩ := List.mem_filterMap.mp hm
    obtain ⟨v, -, rfl⟩ := Option.map_eq_some_iff.mp hfm
    simpa using ⟨f.2, hf⟩
  rw [ofFields, reread, fields?, namedMembers?_rereadMembers]
  simp only [hknown, Bool.and_false, Bool.false_eq_true, if_false, List.mapM_map]
  refine mapM_eq_some_map fun f hf => ?_
  rw [Function.comp_apply, filter_given hnames hf]
  cases f.2 <;> rfl

theorem isWritable_ofFields {fs : List (String × Option Json)}
    (h : ∀ f ∈ fs, ∀ v, f.2 = some v → IsWritable v) : IsWritable (ofFields fs) := by
  refine .object fun m hm => ?_
  obtain ⟨f, hf, hfm⟩ := List.mem_filterMap.mp hm
  obtain ⟨v, hv, rfl⟩ := Option.map_eq_some_iff.mp hfm
  exact h f hf v hv

end Coordination.Text.Json
