/-!
# Well-formed UTF-8

Whether a sequence of bytes is UTF-8 and, if it is not, where it first goes wrong. A fault is the
longest prefix of the remaining bytes that some well-formed character starts with, at least one
byte; when the input ends inside a character, the fault has no length because more could follow.

## Main definitions

* `Utf8.leadRange`: what the byte after a first byte may be, and how many more bytes follow
* `Utf8.firstFault?`: the first fault of a byte sequence, with the count of good bytes before it
-/

namespace Coordination.Text.Utf8

/-- The first place where bytes stop being UTF-8. -/
structure Fault where
  /-- How many bytes before the fault are well formed. -/
  validUpTo : Nat
  /-- How many bytes are wrong; none when the input ends inside a character. -/
  length : Option Nat
  deriving DecidableEq

/-- The fault in words. -/
def Fault.message (f : Fault) : String :=
  match f.length with
  | some n => s!"invalid utf-8 sequence of {n} bytes from index {f.validUpTo}"
  | none => s!"incomplete utf-8 byte sequence from index {f.validUpTo}"

/-- For the first byte of a character of two or more bytes: the least and greatest second byte, and
how many bytes follow the second. The bounds leave out overlong forms, surrogates and what lies
beyond the last code point. -/
def leadRange (b : UInt8) : Option (UInt8 × UInt8 × Nat) :=
  if 0xC2 ≤ b ∧ b ≤ 0xDF then some (0x80, 0xBF, 0)
  else if b = 0xE0 then some (0xA0, 0xBF, 1)
  else if b = 0xED then some (0x80, 0x9F, 1)
  else if 0xE1 ≤ b ∧ b ≤ 0xEF then some (0x80, 0xBF, 1)
  else if b = 0xF0 then some (0x90, 0xBF, 2)
  else if 0xF1 ≤ b ∧ b ≤ 0xF3 then some (0x80, 0xBF, 2)
  else if b = 0xF4 then some (0x80, 0x8F, 2)
  else none

/-- What is left after `n` continuation bytes, or how long the wrong sequence is when `seen` bytes
of it came before. -/
def continuation : (n seen : Nat) → List UInt8 → Except (Option Nat) (List UInt8)
  | 0, _, bs => .ok bs
  | _ + 1, _, [] => .error none
  | n + 1, seen, b :: bs =>
    if 0x80 ≤ b ∧ b ≤ 0xBF then continuation n (seen + 1) bs else .error (some seen)

/-- What is left after the first character, or the length of the fault it starts with. -/
def character : List UInt8 → Except (Option Nat) (List UInt8)
  | [] => .ok []
  | b :: bs =>
    if b < 0x80 then .ok bs
    else match leadRange b with
      | none => .error (some 1)
      | some (lo, hi, more) =>
        match bs with
        | [] => .error none
        | b' :: bs' => if lo ≤ b' ∧ b' ≤ hi then continuation more 2 bs' else .error (some 1)

theorem continuation_length {n seen : Nat} {bs rest : List UInt8}
    (h : continuation n seen bs = .ok rest) : rest.length ≤ bs.length := by
  induction n generalizing seen bs with
  | zero => simp [continuation] at h; simp [h]
  | succ n ih =>
    cases bs with
    | nil => simp [continuation] at h
    | cons b bs =>
      simp only [continuation] at h
      split at h
      · exact Nat.le_succ_of_le (ih h)
      · simp at h

theorem character_length {b : UInt8} {bs rest : List UInt8}
    (h : character (b :: bs) = .ok rest) : rest.length < (b :: bs).length := by
  simp only [character] at h
  split at h
  · simp at h; simp [h]
  · split at h
    · simp at h
    · split at h
      · simp at h
      · split at h
        · have := continuation_length h
          simp only [List.length_cons]
          omega
        · simp at h

/-- The first fault of the bytes, `good` well-formed bytes having come before them. -/
def faultFrom (good : Nat) (bs : List UInt8) : Option Fault :=
  match bs with
  | [] => none
  | b :: rest =>
    match _h : character (b :: rest) with
    | .error n => some ⟨good, n⟩
    | .ok left => faultFrom (good + ((b :: rest).length - left.length)) left
termination_by bs.length
decreasing_by exact character_length ‹_›

/-- The first fault of a byte sequence; none when it is UTF-8. -/
def firstFault? (data : ByteArray) : Option Fault := faultFrom 0 data.data.toList

end Coordination.Text.Utf8
