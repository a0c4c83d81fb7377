import Coordination.Text.Utf8
import Coordination.Proofs.Text.ByteOrder

/-!
# The bytes without a fault are those of a text

The check for faults reads one character after another and never computes a code point: it looks
at the first byte for the length and at the range the second byte may be in. A table of the
well-formed sequences is between the two readings, the check's and the encoding's.

## Main definitions

* `Utf8.WellFormed`: the table of the byte sequences that are one character
* `Utf8.Second`: what the check asks of the second byte of a character

## Main results

* `character_eq_ok_iff`: the check gets past exactly the sequences of the table
* `wellFormed_iff`: the sequences of the table are the encodings of characters
* `firstFault?_eq_none_iff`: bytes have no fault iff they are the bytes of some text
-/

namespace Coordination.Text.Utf8

/-- The byte is one that continues a character. -/
def Continues (b : UInt8) : Prop := 0x80 ≤ b.toNat ∧ b.toNat ≤ 0xBF

/-- The sequences of bytes that are one character, by the number of bytes. -/
inductive WellFormed : List UInt8 → Prop
  | one {b : UInt8} (h : b.toNat < 0x80) : WellFormed [b]
  | two {b b' : UInt8} (h : 0xC2 ≤ b.toNat ∧ b.toNat ≤ 0xDF) (h' : Continues b') :
    WellFormed [b, b']
  | three {b b' c : UInt8} (h : 0xE0 ≤ b.toNat ∧ b.toNat ≤ 0xEF) (h' : Continues b')
    (long : b.toNat = 0xE0 → 0xA0 ≤ b'.toNat) (surrogate : b.toNat = 0xED → b'.toNat ≤ 0x9F)
    (hc : Continues c) : WellFormed [b, b', c]
  | four {b b' c d : UInt8} (h : 0xF0 ≤ b.toNat ∧ b.toNat ≤ 0xF4) (h' : Continues b')
    (long : b.toNat = 0xF0 → 0x90 ≤ b'.toNat) (beyond : b.toNat = 0xF4 → b'.toNat ≤ 0x8F)
    (hc : Continues c) (hd : Continues d) : WellFormed [b, b', c, d]

/-! ### The check -/

theorem continues_iff {b : UInt8} : (0x80 ≤ b ∧ b ≤ 0xBF) ↔ Continues b := by
  rw [UInt8.le_iff_toNat_le, UInt8.le_iff_toNat_le]
  rfl

@[simp] theorem continuation_zero_eq_ok_iff {seen : Nat} {bs rest : List UInt8} :
    continuation 0 seen bs = .ok rest ↔ bs = rest := by simp [continuation]

@[simp] theorem continuation_succ_eq_ok_iff {n seen : Nat} {bs rest : List UInt8} :
    continuation (n + 1) seen bs = .ok rest ↔
      ∃ b bs', bs = b :: bs' ∧ Continues b ∧ continuation n (seen + 1) bs' = .ok rest := by
  cases bs with
  | nil => simp [continuation]
  | cons b bs =>
    simp only [continuation, continues_iff, List.cons.injEq]
    split
    · next hb =>
      refine ⟨fun h => ⟨b, bs, ⟨rfl, rfl⟩, hb, h⟩, ?_⟩
      rintro ⟨_, _, ⟨rfl, rfl⟩, -, h⟩
      exact h
    · next hb =>
      refine iff_of_false (by simp) ?_
      rintro ⟨_, _, ⟨rfl, rfl⟩, h, -⟩
      exact hb h

/-- The second byte is in the range that the first one gives it, `n` more bytes to follow. -/
def Second (n : Nat) (b b' : UInt8) : Prop :=
  ∃ lo hi, leadRange b = some (lo, hi, n) ∧ lo ≤ b' ∧ b' ≤ hi

theorem second_iff {n : Nat} {b b' : UInt8} :
    Second n b b' ↔
      (n = 0 ∧ (0xC2 ≤ b.toNat ∧ b.toNat ≤ 0xDF) ∧ Continues b') ∨
      (n = 1 ∧ (0xE0 ≤ b.toNat ∧ b.toNat ≤ 0xEF) ∧ Continues b' ∧
        (b.toNat = 0xE0 → 0xA0 ≤ b'.toNat) ∧ (b.toNat = 0xED → b'.toNat ≤ 0x9F)) ∨
      (n = 2 ∧ (0xF0 ≤ b.toNat ∧ b.toNat ≤ 0xF4) ∧ Continues b' ∧
        (b.toNat = 0xF0 → 0x90 ≤ b'.toNat) ∧ (b.toNat = 0xF4 → b'.toNat ≤ 0x8F)) := by
  simp only [Second, leadRange, UInt8.le_iff_toNat_le, ← UInt8.toNat_inj, UInt8.reduceToNat,
    Continues]
  repeat' split
  all_goals simp only [Option.some.injEq, Prod.mk.injEq, reduceCtorEq, false_and, exists_false,
    and_assoc, exists_eq_left', exists_and_left, UInt8.reduceToNat, false_iff]
  all_goals omega

theorem character_cons {b : UInt8} {bs rest : List UInt8} :
    character (b :: bs) = .ok rest ↔
      (b.toNat < 0x80 ∧ bs = rest) ∨
      0x80 ≤ b.toNat ∧ ∃ n b' bs', bs = b' :: bs' ∧ Second n b b' ∧
        continuation n 2 bs' = .ok rest := by
  simp only [character, Second, UInt8.lt_iff_toNat_lt, UInt8.reduceToNat]
  grind

/-- The check gets past exactly the sequences of the table. -/
theorem character_eq_ok_iff {b : UInt8} {bs rest : List UInt8} :
    character (b :: bs) = .ok rest ↔ ∃ front, WellFormed front ∧ b :: bs = front ++ rest := by
  simp only [character_cons, second_iff]
  constructor
  · rintro (⟨h, rfl⟩ | ⟨-, n, b', bs', rfl, hb, hbs⟩)
    · exact ⟨[b], .one h, rfl⟩
    rcases hb with ⟨rfl, h, h'⟩ | ⟨rfl, h, h', long, surrogate⟩ | ⟨rfl, h, h', long, beyond⟩
    · obtain rfl := continuation_zero_eq_ok_iff.mp hbs
      exact ⟨[b, b'], .two h h', rfl⟩
    · simp only [continuation_succ_eq_ok_iff, continuation_zero_eq_ok_iff] at hbs
      obtain ⟨c, _, rfl, hc, rfl⟩ := hbs
      exact ⟨[b, b', c], .three h h' long surrogate hc, rfl⟩
    · simp only [continuation_succ_eq_ok_iff, continuation_zero_eq_ok_iff] at hbs
      obtain ⟨c, _, rfl, hc, d, _, rfl, hd, rfl⟩ := hbs
      exact ⟨[b, b', c, d], .four h h' long beyond hc hd, rfl⟩
  · rintro ⟨front, hfront, heq⟩
    cases hfront with
    | one h =>
      obtain ⟨rfl, rfl⟩ := List.cons.inj heq
      exact .inl ⟨h, rfl⟩
    | two h h' =>
      obtain ⟨rfl, rfl⟩ := List.cons.inj heq
      exact .inr ⟨by omega, 0, _, _, rfl, .inl ⟨rfl, h, h'⟩, by simp⟩
    | three h h' long surrogate hc =>
      obtain ⟨rfl, rfl⟩ := List.cons.inj heq
      exact .inr ⟨by omega, 1, _, _, rfl, .inr (.inl ⟨rfl, h, h', long, surrogate⟩),
        by simp [continuation, continues_iff, hc]⟩
    | four h h' long beyond hc hd =>
      obtain ⟨rfl, rfl⟩ := List.cons.inj heq
      exact .inr ⟨by omega, 2, _, _, rfl, .inr (.inr ⟨rfl, h, h', long, beyond⟩),
        by simp [continuation, continues_iff, hc, hd]⟩

/-! ### The encoding -/

theorem toNat_ofNat_of_lt {n : Nat} (h : n < 256) : (UInt8.ofNat n).toNat = n := by
  rw [UInt8.toNat_ofNat', Nat.mod_eq_of_lt h]

theorem Continues.ofNat (n : Nat) : Continues (UInt8.ofNat (n % 64 + 128)) := by
  unfold Continues
  rw [toNat_ofNat_of_lt (by omega)]
  omega

theorem wellFormed_encode (c : Char) : WellFormed (String.utf8EncodeChar c) := by
  have hc : c.val.toNat < 0xD800 ∨ 0xDFFF < c.val.toNat ∧ c.val.toNat < 0x110000 := c.valid
  unfold String.utf8EncodeChar
  dsimp only
  generalize c.val.toNat = v at hc
  split
  · exact .one (by rw [toNat_ofNat_of_lt (by omega)]; omega)
  split
  · exact .two (by rw [toNat_ofNat_of_lt (by omega)]; omega) (.ofNat _)
  split
  · refine .three (by rw [toNat_ofNat_of_lt (by omega)]; omega) (.ofNat _) ?_ ?_ (.ofNat _)
    all_goals
      rw [toNat_ofNat_of_lt (by omega), toNat_ofNat_of_lt (by omega)]
      omega
  · refine .four (by rw [toNat_ofNat_of_lt (by omega)]; omega) (.ofNat _) ?_ ?_ (.ofNat _)
      (.ofNat _)
    all_goals
      rw [toNat_ofNat_of_lt (by omega), toNat_ofNat_of_lt (by omega)]
      omega

/-- Every code point but the surrogates is that of a character. -/
theorem exists_char {v : Nat} (h : v < 0xD800 ∨ 0xDFFF < v ∧ v < 0x110000) :
    ∃ c : Char, c.val.toNat = v :=
  ⟨Char.ofNatAux v h, rfl⟩

theorem WellFormed.exists_encode {bs : List UInt8} (h : WellFormed bs) :
    ∃ c, String.utf8EncodeChar c = bs := by
  have same {b : UInt8} {n : Nat} (h : n = b.toNat) : UInt8.ofNat n = b := by
    rw [h, UInt8.ofNat_toNat]
  -- the code point is put together from what the bytes hold beside their marks
  cases h with
  | @one b h =>
    obtain ⟨c, hc⟩ := exists_char (v := b.toNat) (by omega)
    refine ⟨c, ?_⟩
    unfold String.utf8EncodeChar
    dsimp only
    rw [hc, if_pos (by omega), same rfl]
  | @two b b' h h' =>
    unfold Continues at h'
    obtain ⟨c, hc⟩ := exists_char (v := (b.toNat - 0xC0) * 64 + (b'.toNat - 0x80)) (by omega)
    refine ⟨c, ?_⟩
    unfold String.utf8EncodeChar
    dsimp only
    rw [hc, if_neg (by omega), if_pos (by omega), same (b := b) (by omega),
      same (b := b') (by omega)]
  | @three b b' d h h' long surrogate hd =>
    unfold Continues at h' hd
    obtain ⟨c, hc⟩ := exists_char (v := (b.toNat - 0xE0) * 4096 + (b'.toNat - 0x80) * 64 +
      (d.toNat - 0x80)) (by omega)
    refine ⟨c, ?_⟩
    unfold String.utf8EncodeChar
    dsimp only
    rw [hc, if_neg (by omega), if_neg (by omega), if_pos (by omega), same (b := b) (by omega),
      same (b := b') (by omega), same (b := d) (by omega)]
  | @four b b' d e h h' long beyond hd he =>
    unfold Continues at h' hd he
    obtain ⟨c, hc⟩ := exists_char (v := (b.toNat - 0xF0) * 262144 + (b'.toNat - 0x80) * 4096 +
      (d.toNat - 0x80) * 64 + (e.toNat - 0x80)) (by omega)
    refine ⟨c, ?_⟩
    unfold String.utf8EncodeChar
    dsimp only
    rw [hc, if_neg (by omega), if_neg (by omega), if_neg (by omega), same (b := b) (by omega),
      same (b := b') (by omega), same (b := d) (by omega), same (b := e) (by omega)]

/-- **The sequences of the table are the encodings of characters.** -/
theorem wellFormed_iff {bs : List UInt8} :
    WellFormed bs ↔ ∃ c, String.utf8EncodeChar c = bs :=
  ⟨WellFormed.exists_encode, fun ⟨c, hc⟩ => hc ▸ wellFormed_encode c⟩

/-! ### Whole texts -/

theorem character_of_encode {b : UInt8} {bs : List UInt8} {c : Char} {cs : List Char}
    (h : b :: bs = (c :: cs).flatMap String.utf8EncodeChar) :
    character (b :: bs) = .ok (cs.flatMap String.utf8EncodeChar) :=
  character_eq_ok_iff.mpr ⟨_, wellFormed_encode c, by rw [h, List.flatMap_cons]⟩

/-- No fault is found iff the check gets from one character to the next until the end. -/
theorem faultFrom_eq_none_iff {good : Nat} {bs : List UInt8} :
    faultFrom good bs = none ↔ ∃ cs : List Char, bs = cs.flatMap String.utf8EncodeChar := by
  -- the induction is the check's own: on to what is left after the first character
  induction good, bs using faultFrom.induct with
  | case1 good => exact iff_of_true (by rw [faultFrom]) ⟨[], rfl⟩
  | case2 good b bs n h =>
    have fault : faultFrom good (b :: bs) = some ⟨good, n⟩ := by
      rw [faultFrom]
      split <;> simp_all
    rw [fault]
    refine iff_of_false (by simp) ?_
    rintro ⟨_ | ⟨c, cs⟩, hcs⟩
    · cases hcs
    · cases h.symm.trans (character_of_encode hcs)
  | case3 good b bs left h ih =>
    have further : faultFrom good (b :: bs) =
        faultFrom (good + ((b :: bs).length - left.length)) left := by
      rw [faultFrom]
      split <;> simp_all
    rw [further, ih]
    constructor
    · rintro ⟨cs, rfl⟩
      obtain ⟨front, hfront, heq⟩ := character_eq_ok_iff.mp h
      obtain ⟨c, rfl⟩ := wellFormed_iff.mp hfront
      exact ⟨c :: cs, heq⟩
    · rintro ⟨_ | ⟨c, cs⟩, hcs⟩
      · cases hcs
      · cases h.symm.trans (character_of_encode hcs)
        exact ⟨cs, rfl⟩

/-- **Bytes have no fault iff they are the bytes of some text.** -/
theorem firstFault?_eq_none_iff {data : ByteArray} :
    firstFault? data = none ↔ ∃ text : String, text.toUTF8 = data := by
  have toList_inj {data' : ByteArray} :
      data'.data.toList = data.data.toList ↔ data' = data := by
    rw [Array.toList_inj, ByteArray.ext_iff]
  rw [firstFault?, faultFrom_eq_none_iff]
  constructor
  · rintro ⟨cs, hcs⟩
    refine ⟨String.ofList cs, toList_inj.mp ?_⟩
    rw [hcs]
    exact (bytes_eq_flatMap _).trans (by rw [String.toList_ofList])
  · rintro ⟨text, rfl⟩
    exact ⟨text.toList, bytes_eq_flatMap text⟩

end Coordination.Text.Utf8
