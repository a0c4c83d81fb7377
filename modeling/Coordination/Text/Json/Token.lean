import Coordination.Text.Json.Basic

/-!
# Tokens of a JSON document

The lexical half of the grammar: a text is blanks and tokens. Each scanner takes the characters
after the first one of its token and returns what is left, which is never longer, so the whole text
is cut in as many steps as it has characters.
-/

namespace Coordination.Text.Json

/-- A token of a JSON document. -/
inductive Token where
  | arrayOpen
  | arrayClose
  | objectOpen
  | objectClose
  | comma
  | colon
  | null
  | bool (b : Bool)
  | number (n : Numeral)
  | string (s : Literal)
  deriving DecidableEq

/-- The characters that may stand between tokens. -/
def isBlank (c : Char) : Bool := c == ' ' || c == '\n' || c == '\t' || c == '\r'

/-- The value of a hexadecimal digit. -/
def hexDigit? (c : Char) : Option Nat :=
  if '0' ≤ c ∧ c ≤ '9' then some (c.toNat - 48)
  else if 'a' ≤ c ∧ c ≤ 'f' then some (c.toNat - 87)
  else if 'A' ≤ c ∧ c ≤ 'F' then some (c.toNat - 55)
  else none

/-- The UTF-16 unit of four hexadecimal digits. -/
def hexUnit? (a b c d : Char) : Option UInt16 := do
  let a ← hexDigit? a
  let b ← hexDigit? b
  let c ← hexDigit? c
  let d ← hexDigit? d
  return UInt16.ofNat (((a * 16 + b) * 16 + c) * 16 + d)

/-- The character that a one-letter escape stands for. -/
def shortEscape? : Char → Option Char
  | '"' => some '"'
  | '\\' => some '\\'
  | '/' => some '/'
  | 'b' => some '\x08'
  | 'f' => some '\x0c'
  | 'n' => some '\n'
  | 'r' => some '\r'
  | 't' => some '\t'
  | _ => none

/-- The rest of a string after its first quote, and what follows its last quote. -/
def stringBody : List Char → Option (Literal × List Char)
  | [] => none
  | '"' :: rest => some ([], rest)
  | '\\' :: 'u' :: a :: b :: c :: d :: rest =>
    match hexUnit? a b c d with
    | none => none
    | some u => (stringBody rest).map fun r => (.unit u :: r.1, r.2)
  | '\\' :: e :: rest =>
    match shortEscape? e with
    | none => none
    | some x => (stringBody rest).map fun r => (.char x :: r.1, r.2)
  | c :: rest =>
    if c.toNat < 0x20 then none else (stringBody rest).map fun r => (.char c :: r.1, r.2)

/-- The digits after a point, and what follows them. -/
def fractionPart : List Char → Option (Option (List Char) × List Char)
  | '.' :: rest =>
    if (rest.takeWhile Char.isDigit).isEmpty then none
    else some (some (rest.takeWhile Char.isDigit), rest.dropWhile Char.isDigit)
  | rest => some (none, rest)

/-- The sign and digits after an exponent mark, and what follows them. -/
def exponentDigits (negative : Bool) (rest : List Char) :
    Option (Option (Bool × List Char) × List Char) :=
  if (rest.takeWhile Char.isDigit).isEmpty then none
  else some (some (negative, rest.takeWhile Char.isDigit), rest.dropWhile Char.isDigit)

/-- The exponent, if there is one, and what follows it. -/
def exponentPart : List Char → Option (Option (Bool × List Char) × List Char)
  | c :: rest =>
    if c = 'e' ∨ c = 'E' then
      match rest with
      | '-' :: rest' => exponentDigits true rest'
      | '+' :: rest' => exponentDigits false rest'
      | _ => exponentDigits false rest
    else some (none, c :: rest)
  | [] => some (none, [])

/-- A number whose first digit is `d`, and what follows it. -/
def numberBody (negative : Bool) (d : Char) (rest : List Char) : Option (Numeral × List Char) :=
  if !d.isDigit then none
  else if d = '0' ∧ !(rest.takeWhile Char.isDigit).isEmpty then none
  else do
    let (fraction, rest₁) ← fractionPart (rest.dropWhile Char.isDigit)
    let (exponent, rest₂) ← exponentPart rest₁
    return ({ negative, whole := d :: rest.takeWhile Char.isDigit, fraction, exponent }, rest₂)

/-- The token that starts with `c`, and what follows it. -/
def token (c : Char) (rest : List Char) : Option (Token × List Char) :=
  match c with
  | '[' => some (.arrayOpen, rest)
  | ']' => some (.arrayClose, rest)
  | '\x7b' => some (.objectOpen, rest)
  | '\x7d' => some (.objectClose, rest)
  | ',' => some (.comma, rest)
  | ':' => some (.colon, rest)
  | '"' => (stringBody rest).map fun r => (.string r.1, r.2)
  | 'n' => match rest with
    | 'u' :: 'l' :: 'l' :: rest' => some (.null, rest')
    | _ => none
  | 't' => match rest with
    | 'r' :: 'u' :: 'e' :: rest' => some (.bool true, rest')
    | _ => none
  | 'f' => match rest with
    | 'a' :: 'l' :: 's' :: 'e' :: rest' => some (.bool false, rest')
    | _ => none
  | '-' => match rest with
    | d :: rest' => (numberBody true d rest').map fun r => (.number r.1, r.2)
    | [] => none
  | d => (numberBody false d rest).map fun r => (.number r.1, r.2)

/-! ## Each scanner leaves no more than it was given -/

theorem length_dropWhile_le (p : Char → Bool) (cs : List Char) :
    (cs.dropWhile p).length ≤ cs.length := (List.dropWhile_suffix p).length_le

theorem stringBody_length {cs : List Char} {l : Literal} {rest : List Char}
    (h : stringBody cs = some (l, rest)) : rest.length ≤ cs.length := by
  fun_induction stringBody cs generalizing l rest with
  | case1 => simp at h
  | case2 r => simp at h; simp [h]
  | case3 => simp_all
  | case4 a b c d r u hu ih =>
    simp only [Option.map_eq_some_iff, Prod.mk.injEq] at h
    obtain ⟨⟨l', r'⟩, hr, -, rfl⟩ := h
    have := ih hr
    simp only [List.length_cons]; omega
  | case5 => simp_all
  | case6 e r he x hx ih =>
    simp only [Option.map_eq_some_iff, Prod.mk.injEq] at h
    obtain ⟨⟨l', r'⟩, hr, -, rfl⟩ := h
    have := ih hr
    simp only [List.length_cons]; omega
  | case7 => simp_all
  | case8 c r h₁ h₂ h₃ h₄ ih =>
    simp only [Option.map_eq_some_iff, Prod.mk.injEq] at h
    obtain ⟨⟨l', r'⟩, hr, -, rfl⟩ := h
    have := ih hr
    simp only [List.length_cons]; omega

theorem fractionPart_length {cs : List Char} {f : Option (List Char)} {rest : List Char}
    (h : fractionPart cs = some (f, rest)) : rest.length ≤ cs.length := by
  unfold fractionPart at h
  split at h
  · split at h
    · simp at h
    · simp only [Option.some.injEq, Prod.mk.injEq] at h
      rw [← h.2]
      exact Nat.le_succ_of_le (length_dropWhile_le _ _)
  · simp only [Option.some.injEq, Prod.mk.injEq] at h
    simp [h.2]

theorem exponentDigits_length {neg : Bool} {cs : List Char} {f : Option (Bool × List Char)}
    {rest : List Char} (h : exponentDigits neg cs = some (f, rest)) : rest.length ≤ cs.length := by
  unfold exponentDigits at h
  split at h
  · simp at h
  · simp only [Option.some.injEq, Prod.mk.injEq] at h
    rw [← h.2]
    exact length_dropWhile_le _ _

theorem exponentPart_length {cs : List Char} {f : Option (Bool × List Char)} {rest : List Char}
    (h : exponentPart cs = some (f, rest)) : rest.length ≤ cs.length := by
  unfold exponentPart at h
  split at h
  · split at h
    · split at h
      all_goals
        have := exponentDigits_length h
        simp only [List.length_cons] at *
        omega
    · simp only [Option.some.injEq, Prod.mk.injEq] at h
      simp [← h.2]
  · simp only [Option.some.injEq, Prod.mk.injEq] at h
    simp [← h.2]

theorem numberBody_length {neg : Bool} {d : Char} {cs : List Char} {n : Numeral} {rest : List Char}
    (h : numberBody neg d cs = some (n, rest)) : rest.length ≤ cs.length := by
  unfold numberBody at h
  split at h
  · simp at h
  · split at h
    · simp at h
    · simp only [Option.bind_eq_bind, Option.bind_eq_some_iff, Option.pure_def, Option.some.injEq,
        Prod.mk.injEq, Prod.exists] at h
      obtain ⟨f, r₁, hf, e, r₂, he, -, rfl⟩ := h
      exact Nat.le_trans (exponentPart_length he)
        (Nat.le_trans (fractionPart_length hf) (length_dropWhile_le _ _))

theorem token_length {c : Char} {cs : List Char} {t : Token} {rest : List Char}
    (h : token c cs = some (t, rest)) : rest.length ≤ cs.length := by
  unfold token at h
  split at h
  case h_7 =>
    simp only [Option.map_eq_some_iff, Prod.mk.injEq] at h
    obtain ⟨⟨l, r⟩, hr, -, rfl⟩ := h
    exact stringBody_length hr
  case h_11 =>
    split at h
    · simp only [Option.map_eq_some_iff, Prod.mk.injEq] at h
      obtain ⟨⟨l, r⟩, hr, -, rfl⟩ := h
      exact Nat.le_succ_of_le (numberBody_length hr)
    · simp at h
  case h_12 =>
    simp only [Option.map_eq_some_iff, Prod.mk.injEq] at h
    obtain ⟨⟨l, r⟩, hr, -, rfl⟩ := h
    exact numberBody_length hr
  case h_8 | h_9 | h_10 =>
    split at h
    · simp only [Option.some.injEq, Prod.mk.injEq] at h
      simp only [← h.2, List.length_cons]; omega
    · simp at h
  all_goals
    simp only [Option.some.injEq, Prod.mk.injEq] at h
    simp [h.2]

/-- The tokens of a text; none when some character starts no token. -/
def tokens (cs : List Char) : Option (List Token) :=
  match cs with
  | [] => some []
  | c :: rest =>
    if isBlank c then tokens rest
    else match _h : token c rest with
      | none => none
      | some (t, rest') => (tokens rest').map (t :: ·)
termination_by cs.length
decreasing_by
  · simp
  · exact Nat.lt_succ_of_le (token_length ‹_›)

end Coordination.Text.Json
