import Coordination.Text.Json.Reader

/-!
# Documents that denote values

A document denotes a value when every string denotes a text, every number lies in the range of
64-bit binary floating point and nothing is nested too deeply. Numbers are evaluated the quick way:
as many leading digits as fit 64 bits, scaled by a power of ten, with one rounding each.
-/

namespace Coordination.Text.Json

/-- How many arrays and objects may be nested. -/
def maxNesting : Nat := 127

/-- The nearest number with 53 significant bits; a tie goes to the even one. -/
def roundBinary (n : Nat) : Nat :=
  let shift := n.log2 + 1 - 53
  let unit := Nat.pow 2 shift
  let low := n % unit
  let kept := n / unit
  if 2 * low < unit ∨ (2 * low = unit ∧ kept % 2 = 0) then kept * unit else (kept + 1) * unit

/-- Whether a value rounds to no finite 64-bit floating point number. -/
def overflowsBinary (n : Nat) : Bool := Nat.pow 2 1024 - Nat.pow 2 970 ≤ n

/-- The leading digits taken into a 64-bit significand, and the digits that did not fit. -/
def significand (n : Nat) : List Char → Nat × List Char
  | [] => (n, [])
  | d :: ds =>
    let m := 10 * n + (d.toNat - 48)
    if m < UInt64.size then significand m ds else (n, d :: ds)

/-- The significand and decimal exponent of a number without its written exponent. -/
def Numeral.scaled (n : Numeral) : Nat × Int :=
  let (whole, dropped) := significand 0 n.whole
  match n.fraction with
  | none => (whole, dropped.length)
  | some ds =>
    let (m, unread) := significand whole ds
    (m, (dropped.length : Int) - (ds.length - unread.length : Nat))

/-- Whether a number is in the range of 64-bit floating point. -/
def Numeral.inRange (n : Numeral) : Bool :=
  let (m, e) := n.scaled
  match n.exponent with
  | none => fits m e
  | some (negative, ds) =>
    if Nat.pow 2 31 ≤ digitsValue ds then m = 0 || negative
    else fits m (if negative then e - digitsValue ds else e + digitsValue ds)
where
  /-- Whether `m` times ten to the power `e` is in range. -/
  fits (m : Nat) (e : Int) : Bool :=
    m = 0 || e < 0 ||
      (e ≤ 308 && !overflowsBinary (roundBinary m * roundBinary (Nat.pow 10 e.toNat)))

mutual

/-- Whether a document denotes a value, with `room` levels of nesting left. -/
def denotesWithin (room : Nat) : Json → Bool
  | .null => true
  | .bool _ => true
  | .number n => n.inRange
  | .string s => s.chars?.isSome
  | .array items => 0 < room && itemsDenote (room - 1) items
  | .object members => 0 < room && membersDenote (room - 1) members

/-- Whether all items of an array denote values. -/
def itemsDenote (room : Nat) : List Json → Bool
  | [] => true
  | v :: vs => denotesWithin room v && itemsDenote room vs

/-- Whether all names and values of an object denote values. -/
def membersDenote (room : Nat) : List (Literal × Json) → Bool
  | [] => true
  | (k, v) :: ms => k.chars?.isSome && denotesWithin room v && membersDenote room ms

end

/-- Whether a text is a document that denotes a value. -/
def isValue (text : String) : Bool :=
  match read? text with
  | none => false
  | some v => denotesWithin maxNesting v

end Coordination.Text.Json
