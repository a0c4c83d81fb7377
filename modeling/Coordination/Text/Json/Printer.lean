import Coordination.Text.Json.Basic

/-!
# Writing a JSON document

The compact form: no blanks, members in their order, and in strings only the quote, the backslash
and the control characters escaped, the short escapes first.
-/

namespace Coordination.Text.Json

/-- The lower-case hexadecimal digit of a number below sixteen. -/
def hexDigit (n : Nat) : Char := if n < 10 then Char.ofNat (48 + n) else Char.ofNat (87 + n)

/-- The escape of a UTF-16 unit by its number. -/
def unitEscape (n : Nat) : List Char :=
  ['\\', 'u', hexDigit (n / 0x1000 % 16), hexDigit (n / 0x100 % 16), hexDigit (n / 0x10 % 16),
    hexDigit (n % 16)]

/-- How a string writes one of its elements. -/
def Piece.render : Piece → List Char
  | .unit u => unitEscape u.toNat
  | .char c =>
    match c with
    | '"' => ['\\', '"']
    | '\\' => ['\\', '\\']
    | '\x08' => ['\\', 'b']
    | '\x0c' => ['\\', 'f']
    | '\n' => ['\\', 'n']
    | '\r' => ['\\', 'r']
    | '\t' => ['\\', 't']
    | c => if c.toNat < 0x20 then unitEscape c.toNat else [c]

/-- A string between its quotes. -/
def Literal.render (l : Literal) : List Char := '"' :: l.flatMap Piece.render ++ ['"']

/-- A number as it was written. -/
def Numeral.render (n : Numeral) : List Char :=
  (if n.negative then ['-'] else []) ++ n.whole
    ++ (match n.fraction with
      | none => []
      | some ds => '.' :: ds)
    ++ (match n.exponent with
      | none => []
      | some (negative, ds) => 'e' :: (if negative then '-' :: ds else ds))

/-- Pieces with a comma between them. -/
def commaJoined : List (List Char) → List Char
  | [] => []
  | [p] => p
  | p :: ps => p ++ ',' :: commaJoined ps

mutual

/-- The compact form of a document. -/
def render : Json → List Char
  | .null => ['n', 'u', 'l', 'l']
  | .bool true => ['t', 'r', 'u', 'e']
  | .bool false => ['f', 'a', 'l', 's', 'e']
  | .number n => n.render
  | .string s => s.render
  | .array items => '[' :: commaJoined (renderItems items) ++ [']']
  | .object members => '\x7b' :: commaJoined (renderMembers members) ++ ['\x7d']

/-- The compact forms of the items of an array. -/
def renderItems : List Json → List (List Char)
  | [] => []
  | v :: vs => render v :: renderItems vs

/-- The compact forms of the members of an object. -/
def renderMembers : List (Literal × Json) → List (List Char)
  | [] => []
  | (k, v) :: ms => (k.render ++ ':' :: render v) :: renderMembers ms

end

/-- The compact form of a document as a text. -/
def compact (v : Json) : String := String.ofList (render v)

end Coordination.Text.Json
