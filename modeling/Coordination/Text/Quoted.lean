import Coordination.Text.Unicode.Repertoire

/-!
# Quoted text

A text between double quotes, with every character that would not show written as an escape. The
named escapes come first; what combines with its neighbour or does not print is written by its
code point, so a quoted text shows which characters it holds.
-/

namespace Coordination.Text

/-- The digits of `n` in base sixteen, in lower case and without leading zeros. -/
def hexDigits (n : Nat) : List Char := Nat.toDigits 16 n

/-- Whether a character joins the one before it and has no form of its own. The half-width sound
marks of Katakana extend a character too, but they take a place of their own. -/
def isCombining (c : Char) : Bool :=
  Unicode.extending.contains c && c != '\uff9e' && c != '\uff9f'

/-- Whether a character has a visible form, or is the space. -/
def isPrintable (c : Char) : Bool := c == ' ' || Unicode.visible.contains c

/-- The code point escape of a character. -/
def codeEscape (c : Char) : List Char :=
  ['\\', 'u', '\x7b'] ++ hexDigits c.toNat ++ ['\x7d']

/-- How a character is written between double quotes. -/
def escapeQuoted (c : Char) : List Char :=
  match c with
  | '\x00' => ['\\', '0']
  | '\t' => ['\\', 't']
  | '\n' => ['\\', 'n']
  | '\r' => ['\\', 'r']
  | '"' => ['\\', '"']
  | '\\' => ['\\', '\\']
  | c =>
    if 0x20 ≤ c.toNat ∧ c.toNat < 0x7f then [c]
    else if isCombining c || !isPrintable c then codeEscape c
    else [c]

/-- A text between double quotes. -/
def quoted (s : String) : String :=
  String.ofList ('"' :: s.toList.flatMap escapeQuoted ++ ['"'])

end Coordination.Text
