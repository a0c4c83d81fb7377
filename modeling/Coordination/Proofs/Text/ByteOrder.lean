/-!
# Texts and their bytes in order

Texts are compared character by character. Compared byte by byte in UTF-8 they come out the same
way: of two characters the smaller one has the smaller encoding, and neither encoding starts the
other.

## Main definitions

* `Text.bytes`: the bytes of a text in UTF-8

## Main results

* `bytes_lt_bytes_iff`: texts are ordered as their bytes
-/

namespace Coordination.Text

/-- The bytes of a text in UTF-8. -/
def bytes (s : String) : List UInt8 := s.toByteArray.data.toList

theorem bytes_eq_flatMap (s : String) : bytes s = s.toList.flatMap String.utf8EncodeChar := by
  rw [bytes, ← String.utf8Encode_toList, List.utf8Encode, List.data_toByteArray]

theorem cons_lt_cons_of_lt {m n : Nat} (hn : n < 256) (h : m < n) (xs ys : List UInt8) :
    UInt8.ofNat m :: xs < UInt8.ofNat n :: ys := by
  refine List.cons_lt_cons_iff.mpr (Or.inl ?_)
  rw [UInt8.lt_iff_toNat_lt, UInt8.toNat_ofNat', UInt8.toNat_ofNat']
  omega

/-- Bytes that come from equal numbers leave the rest to decide. -/
theorem cons_lt_cons_of_eq {m n : Nat} {xs ys : List UInt8} (h : m = n) (hxs : xs < ys) :
    UInt8.ofNat m :: xs < UInt8.ofNat n :: ys :=
  List.cons_lt_cons_iff.mpr (Or.inr ⟨congrArg _ h, hxs⟩)

/-- The last byte of two encodings of one length. -/
theorem last_lt {v w : Nat} (h : v < w) (hdiv : v / 64 = w / 64) (xs ys : List UInt8) :
    UInt8.ofNat (v % 64 + 128) :: xs < UInt8.ofNat (w % 64 + 128) :: ys :=
  cons_lt_cons_of_lt (by omega) (by omega) _ _

/-- The last two bytes of two encodings of one length. -/
theorem last_two_lt {v w : Nat} (h : v < w) (hdiv : v / 4096 = w / 4096) (xs ys : List UInt8) :
    UInt8.ofNat (v / 64 % 64 + 128) :: UInt8.ofNat (v % 64 + 128) :: xs <
      UInt8.ofNat (w / 64 % 64 + 128) :: UInt8.ofNat (w % 64 + 128) :: ys := by
  rcases Nat.lt_or_ge (v / 64) (w / 64) with hlt | hge
  · exact cons_lt_cons_of_lt (by omega) (by omega) _ _
  · exact cons_lt_cons_of_eq (by omega) (last_lt h (by omega) _ _)

/-- The last three bytes of two encodings of one length. -/
theorem last_three_lt {v w : Nat} (h : v < w) (hdiv : v / 262144 = w / 262144)
    (xs ys : List UInt8) :
    UInt8.ofNat (v / 4096 % 64 + 128) :: UInt8.ofNat (v / 64 % 64 + 128) ::
        UInt8.ofNat (v % 64 + 128) :: xs <
      UInt8.ofNat (w / 4096 % 64 + 128) :: UInt8.ofNat (w / 64 % 64 + 128) ::
        UInt8.ofNat (w % 64 + 128) :: ys := by
  rcases Nat.lt_or_ge (v / 4096) (w / 4096) with hlt | hge
  · exact cons_lt_cons_of_lt (by omega) (by omega) _ _
  · exact cons_lt_cons_of_eq (by omega) (last_two_lt h (by omega) _ _)

/-- The smaller of two characters is encoded below the other, whatever follows. -/
theorem encode_append_lt {c d : Char} (h : c < d) (xs ys : List UInt8) :
    String.utf8EncodeChar c ++ xs < String.utf8EncodeChar d ++ ys := by
  have hv : c.val.toNat < d.val.toNat := h
  have hd : d.val.toNat < 1114112 := by
    rcases d.valid with h | h
    · exact Nat.lt_trans h (by decide)
    · exact h.2
  unfold String.utf8EncodeChar
  dsimp only
  generalize c.val.toNat = v at *
  generalize d.val.toNat = w at *
  -- of two lengths the longer one has the greater first byte
  repeat' split
  all_goals try first | omega | exact cons_lt_cons_of_lt (by omega) (by omega) _ _
  · rcases Nat.lt_or_ge (v / 64) (w / 64) with hlt | hge
    · exact cons_lt_cons_of_lt (by omega) (by omega) _ _
    · exact cons_lt_cons_of_eq (by omega) (last_lt hv (by omega) _ _)
  · rcases Nat.lt_or_ge (v / 4096) (w / 4096) with hlt | hge
    · exact cons_lt_cons_of_lt (by omega) (by omega) _ _
    · exact cons_lt_cons_of_eq (by omega) (last_two_lt hv (by omega) _ _)
  · rcases Nat.lt_or_ge (v / 262144) (w / 262144) with hlt | hge
    · exact cons_lt_cons_of_lt (by omega) (by omega) _ _
    · exact cons_lt_cons_of_eq (by omega) (last_three_lt hv (by omega) _ _)

theorem flatMap_encode_lt {cs ds : List Char} (h : cs < ds) :
    cs.flatMap String.utf8EncodeChar < ds.flatMap String.utf8EncodeChar := by
  induction cs generalizing ds with
  | nil =>
    cases ds with
    | nil => simp at h
    | cons d ds =>
      have hne : String.utf8EncodeChar d ++ ds.flatMap String.utf8EncodeChar ≠ [] := by
        simp [String.utf8EncodeChar_ne_nil]
      obtain ⟨b, bs, hbs⟩ := List.exists_cons_of_ne_nil hne
      rw [List.flatMap_nil, List.flatMap_cons, hbs]
      exact List.nil_lt_cons b bs
  | cons c cs ih =>
    cases ds with
    | nil => simp at h
    | cons d ds =>
      rw [List.flatMap_cons, List.flatMap_cons]
      rcases List.cons_lt_cons_iff.mp h with hcd | ⟨rfl, hlt⟩
      · exact encode_append_lt hcd _ _
      · exact List.append_left_lt (ih hlt)

theorem bytes_lt_bytes {s t : String} (h : s < t) : bytes s < bytes t := by
  rw [bytes_eq_flatMap, bytes_eq_flatMap]
  exact flatMap_encode_lt h

/-- **Texts are ordered as their bytes.** -/
theorem bytes_lt_bytes_iff {s t : String} : bytes s < bytes t ↔ s < t := by
  refine ⟨fun h => ?_, bytes_lt_bytes⟩
  by_cases hts : t < s
  · exact absurd h (List.lt_asymm (bytes_lt_bytes hts))
  · by_cases hst : s < t
    · exact hst
    · have heq : s = t := String.le_antisymm (String.not_lt.mp hts) (String.not_lt.mp hst)
      exact absurd (heq ▸ h) (List.lt_irrefl _)

end Coordination.Text
