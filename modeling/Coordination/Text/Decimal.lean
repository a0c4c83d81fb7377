/-!
# Numbers in decimal

Whole numbers as text: a minus sign for what is below zero, then the digits. A fixed width is filled
with zeros between the sign and the digits, so that texts of one width and no sign are ordered as
their numbers.
-/

namespace Coordination.Text.Decimal

/-- The decimal digits of a natural number. -/
def digits (n : Nat) : List Char := Nat.toDigits 10 n

/-- A natural number. -/
def natural (n : Nat) : String := String.ofList (digits n)

/-- An integer. -/
def integer (i : Int) : String :=
  String.ofList (if i < 0 then '-' :: digits i.natAbs else digits i.natAbs)

/-- Characters filled up on the left to a width. -/
def filled (width : Nat) (fill : Char) (cs : List Char) : List Char :=
  List.replicate (width - cs.length) fill ++ cs

/-- An integer of at least `width` characters, zeros standing after the sign. -/
def zeroFilled (width : Nat) (i : Int) : String :=
  String.ofList
    (if i < 0 then '-' :: filled (width - 1) '0' (digits i.natAbs)
    else filled width '0' (digits i.natAbs))

theorem length_filled {width : Nat} {cs : List Char} (fill : Char) (h : cs.length ≤ width) :
    (filled width fill cs).length = width := by
  simp only [filled, List.length_append, List.length_replicate]
  omega

end Coordination.Text.Decimal
