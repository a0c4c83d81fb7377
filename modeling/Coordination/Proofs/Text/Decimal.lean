import Coordination.Text.Decimal

/-!
# The characters of numbers

A number is written with digits and at most a minus sign, and with at least one character, so that
it can stand at the end of a segment of a path. Numbers of one width and no sign are ordered as
texts are.

## Main results

* `mem_zeroFilledChars`, `zeroFilledChars_ne_nil`: the characters of a number
* `zeroFilledChars_lt`: the order of numbers of one width
-/

namespace Coordination.Text.Decimal

/-- The characters of a number filled up with zeros. -/
def zeroFilledChars (width : Nat) (i : Int) : List Char :=
  if i < 0 then '-' :: filled (width - 1) '0' (digits i.natAbs)
  else filled width '0' (digits i.natAbs)

theorem zeroFilled_eq (width : Nat) (i : Int) :
    zeroFilled width i = String.ofList (zeroFilledChars width i) := rfl

theorem isDigit_of_mem_digits {n : Nat} {c : Char} (h : c ∈ digits n) : c.isDigit :=
  Nat.isDigit_of_mem_toDigits (by decide) (by decide) h

theorem isDigit_of_mem_filled {width n : Nat} {c : Char} (h : c ∈ filled width '0' (digits n)) :
    c.isDigit := by
  rcases List.mem_append.mp h with h | h
  · rw [List.eq_of_mem_replicate h]
    decide
  · exact isDigit_of_mem_digits h

theorem mem_zeroFilledChars {width : Nat} {i : Int} {c : Char} (h : c ∈ zeroFilledChars width i) :
    c = '-' ∨ c.isDigit := by
  unfold zeroFilledChars at h
  split at h
  · rcases List.mem_cons.mp h with h | h
    · exact Or.inl h
    · exact Or.inr (isDigit_of_mem_filled h)
  · exact Or.inr (isDigit_of_mem_filled h)

theorem zeroFilledChars_ne_nil (width : Nat) (i : Int) : zeroFilledChars width i ≠ [] := by
  have hdigits : digits i.natAbs ≠ [] := Nat.toDigits_ne_nil
  unfold zeroFilledChars filled
  split <;> simp [hdigits]

/-! ## Order -/

/-- Of two texts of one length the smaller one stays the smaller, whatever follows. -/
theorem append_lt_append {as bs : List Char} (h : as < bs) (hlength : as.length = bs.length)
    (cs ds : List Char) : as ++ cs < bs ++ ds := by
  induction as generalizing bs with
  | nil =>
    rw [List.length_nil, eq_comm, List.length_eq_zero_iff] at hlength
    subst hlength
    exact absurd h (List.lt_irrefl _)
  | cons a as ih =>
    cases bs with
    | nil => cases hlength
    | cons b bs =>
      rw [List.cons_append, List.cons_append, List.cons_lt_cons_iff]
      rcases List.cons_lt_cons_iff.mp h with hab | ⟨hab, hlt⟩
      · exact .inl hab
      · exact .inr ⟨hab, ih hlt (Nat.succ.inj hlength)⟩

theorem digitChar_lt_digitChar {m n : Nat} (h : m < n) (hn : n < 10) :
    Nat.digitChar m < Nat.digitChar n := by
  have hall : ∀ n : Fin 10, ∀ m : Fin n, Nat.digitChar m < Nat.digitChar n := by decide
  exact hall ⟨n, hn⟩ ⟨m, h⟩

/-- The last digit of a number, and what stands before it. -/
theorem filled_digits_succ {width : Nat} (hw : 0 < width) (n : Nat) :
    filled (width + 1) '0' (digits n) =
      filled width '0' (digits (n / 10)) ++ [Nat.digitChar (n % 10)] := by
  rcases Nat.lt_or_ge n 10 with hlt | hge
  · -- a digit alone: what stands before it are zeros, written one by one or as the number zero
    rw [Nat.div_eq_of_lt hlt, Nat.mod_eq_of_lt hlt, digits, Nat.toDigits_of_lt_base hlt]
    obtain ⟨k, rfl⟩ := Nat.exists_eq_add_of_lt hw
    simp [filled, digits, List.replicate_succ']
  · rw [digits, Nat.toDigits_of_base_le (by decide) hge, filled, filled, List.length_append,
      List.length_singleton, Nat.add_sub_add_right, List.append_assoc]
    rfl

theorem length_digits_le {width n : Nat} (hw : 0 < width) (hn : n < Nat.pow 10 width) :
    (digits n).length ≤ width :=
  (Nat.length_toDigits_le_iff (by decide) hw).mpr hn

theorem filled_lt_filled {width m n : Nat} (hw : 0 < width) (h : m < n)
    (hn : n < Nat.pow 10 width) : filled width '0' (digits m) < filled width '0' (digits n) := by
  induction hw generalizing m n with
  | refl =>
    have hn : n < 10 := hn
    rw [digits, digits, Nat.toDigits_of_lt_base (Nat.lt_trans h hn), Nat.toDigits_of_lt_base hn]
    exact List.cons_lt_cons_iff.mpr (.inl (digitChar_lt_digitChar h hn))
  | @step width hw ih =>
    have hn : n < Nat.pow 10 width * 10 := hn
    have hstem : n / 10 < Nat.pow 10 width := by omega
    rw [filled_digits_succ hw, filled_digits_succ hw]
    rcases Nat.lt_or_ge (m / 10) (n / 10) with hlt | hge
    · refine append_lt_append (ih hlt hstem) ?_ _ _
      rw [length_filled _ (length_digits_le hw (Nat.lt_trans hlt hstem)),
        length_filled _ (length_digits_le hw hstem)]
    · -- the digits before the last are the same
      have heq : m / 10 = n / 10 := by omega
      rw [heq]
      refine List.append_left_lt (List.cons_lt_cons_iff.mpr (.inl ?_))
      exact digitChar_lt_digitChar (by omega) (by omega)

/-- **Numbers of one width and no sign are ordered as texts are.** -/
theorem zeroFilledChars_lt {width : Nat} {i j : Int} (hw : 0 < width) (hi : 0 ≤ i) (h : i < j)
    (hj : j.natAbs < Nat.pow 10 width) : zeroFilledChars width i < zeroFilledChars width j := by
  rw [zeroFilledChars, zeroFilledChars, if_neg (by omega), if_neg (by omega)]
  exact filled_lt_filled hw (by omega) hj

theorem length_zeroFilledChars {width : Nat} {i : Int} (hw : 0 < width) (hi : 0 ≤ i)
    (hlt : i.natAbs < Nat.pow 10 width) : (zeroFilledChars width i).length = width := by
  rw [zeroFilledChars, if_neg (by omega)]
  exact length_filled _ (length_digits_le hw hlt)

end Coordination.Text.Decimal
