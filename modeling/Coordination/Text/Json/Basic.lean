/-!
# JSON documents

A JSON document as its syntax: strings keep their escapes as UTF-16 units and numbers keep their
digits, because what a document means depends on who reads it. A string with an unpaired surrogate
is well-formed syntax that denotes no text, and a number may have no value in the range a reader
wants; both are decided by `Json.Literal.text?` and the accessors, not by the grammar.
-/

namespace Coordination.Text

namespace Json

/-- One element of a string: a character, or an escaped UTF-16 unit. -/
inductive Piece where
  | char (c : Char)
  | unit (u : UInt16)
  deriving DecidableEq

/-- What stands between the quotes of a string. -/
abbrev Literal := List Piece

/-- A number as it is written. -/
structure Numeral where
  /-- Whether a minus sign comes first. -/
  negative : Bool
  /-- The digits before the point, at least one and no needless zero. -/
  whole : List Char
  /-- The digits after the point, if there is one. -/
  fraction : Option (List Char)
  /-- Whether the exponent has a minus sign, and its digits, if there is one. -/
  exponent : Option (Bool × List Char)
  deriving DecidableEq

end Json

/-- A JSON document. -/
inductive Json where
  | null
  | bool (b : Bool)
  | number (n : Json.Numeral)
  | string (s : Json.Literal)
  | array (items : List Json)
  | object (members : List (Json.Literal × Json))

namespace Json

/-! ## Strings -/

/-- Whether a UTF-16 unit is the first of a surrogate pair. -/
def isHighSurrogate (u : UInt16) : Bool := 0xD800 ≤ u && u ≤ 0xDBFF

/-- Whether a UTF-16 unit is the second of a surrogate pair. -/
def isLowSurrogate (u : UInt16) : Bool := 0xDC00 ≤ u && u ≤ 0xDFFF

/-- The character that a surrogate pair stands for. -/
def pairChar (high low : UInt16) : Char :=
  Char.ofNat (0x10000 + (high.toNat - 0xD800) * 0x400 + (low.toNat - 0xDC00))

/-- The characters that a string denotes; none when a surrogate stands alone. -/
def Literal.chars? : Literal → Option (List Char)
  | [] => some []
  | .char c :: rest => (chars? rest).map (c :: ·)
  | .unit u :: rest =>
    if isLowSurrogate u then none
    else if isHighSurrogate u then
      match rest with
      | .unit v :: rest' =>
        if isLowSurrogate v then (chars? rest').map (pairChar u v :: ·) else none
      | _ => none
    else (chars? rest).map (Char.ofNat u.toNat :: ·)

/-- The text that a string denotes; none when a surrogate stands alone. -/
def Literal.text? (l : Literal) : Option String := l.chars?.map String.ofList

/-- A text as a string literal. -/
def Literal.ofText (s : String) : Literal := s.toList.map .char

theorem Literal.chars?_map_char (cs : List Char) :
    Literal.chars? (cs.map .char) = some cs := by
  induction cs with
  | nil => rfl
  | cons c cs ih => simp [Literal.chars?, ih]

@[simp] theorem Literal.text?_ofText (s : String) : (Literal.ofText s).text? = some s := by
  simp [Literal.text?, Literal.ofText, Literal.chars?_map_char]

/-- A text as a document. -/
def ofText (s : String) : Json := .string (.ofText s)

/-! ## Numbers -/

/-- The number that decimal digits denote. -/
def digitsValue (ds : List Char) : Nat := ds.foldl (fun n d => 10 * n + (d.toNat - 48)) 0

/-- A whole number as it is written. -/
def Numeral.ofInt (i : Int) : Numeral :=
  { negative := decide (i < 0), whole := Nat.toDigits 10 i.natAbs, fraction := none,
    exponent := none }

/-- An integer as a document. -/
def ofInt (i : Int) : Json := .number (.ofInt i)

/-- A natural number as a document. -/
def ofNat (n : Nat) : Json := ofInt n

/-- The value of a number written without sign, point and exponent. -/
def Numeral.natural? (n : Numeral) : Option Nat :=
  if n.negative || n.fraction.isSome || n.exponent.isSome then none
  else some (digitsValue n.whole)

/-- The value of a number written without point and exponent. A negative zero counts as no
integer. -/
def Numeral.integer? (n : Numeral) : Option Int :=
  if n.fraction.isSome || n.exponent.isSome then none
  else if n.negative then
    (if digitsValue n.whole = 0 then none else some (-(digitsValue n.whole : Int)))
  else some (digitsValue n.whole)

end Json

end Coordination.Text
