/-!
# Pattern syntax

Patterns as they are written, before their flags are applied: the tree that `Pattern.read?`
produces and `Pattern.compile?` turns into an expression.
-/

namespace Coordination.Text.Pattern

/-- A switch that changes how a part of a pattern is read or matched. -/
inductive Flag where
  /-- Letters match in either case. -/
  | ignoreCase
  /-- Line anchors match at every line. -/
  | multiLine
  /-- The dot matches line ends too. -/
  | dotAll
  /-- Repetitions prefer fewer rounds. -/
  | swapGreed
  /-- Characters are code points and classes are those of Unicode. -/
  | unicode
  /-- Carriage return and line feed together end a line. -/
  | crlf
  /-- Blanks and comments in the pattern are skipped. -/
  | verbose
  deriving DecidableEq

/-- The switches that a group turns on or off, in their order. -/
abbrev FlagSetting := List (Flag × Bool)

/-- A class that has a letter of its own. -/
inductive PerlClass where
  | digit
  | space
  | word
  deriving DecidableEq

/-- A class of ASCII characters with a name between colons. -/
inductive AsciiClass where
  | alnum | alpha | ascii | blank | cntrl | digit | graph | lower | print | punct | space | upper
  | word | xdigit
  deriving DecidableEq

/-- How a Unicode class is named. -/
inductive UnicodeQuery where
  /-- By one name. -/
  | named (name : String)
  /-- By a property and one of its values. -/
  | valued (property value : String)
  deriving DecidableEq

/-- An operation on two classes. -/
inductive ClassOp where
  | intersection
  | difference
  | symmetricDifference
  deriving DecidableEq

/-- A class of characters between brackets. -/
inductive ClassSet where
  | empty
  | literal (c : Char)
  | range (first last : Char)
  | ascii (k : AsciiClass) (negated : Bool)
  | perl (k : PerlClass) (negated : Bool)
  | unicode (q : UnicodeQuery) (negated : Bool)
  | bracketed (negated : Bool) (s : ClassSet)
  | union (a b : ClassSet)
  | op (o : ClassOp) (a b : ClassSet)

/-- A position that a pattern asks about. -/
inductive Assertion where
  | lineStart
  | lineEnd
  | textStart
  | textEnd
  | wordBoundary
  | noWordBoundary
  | wordStart
  | wordEnd
  | wordStartHalf
  | wordEndHalf
  deriving DecidableEq

/-- A pattern as it is written. -/
inductive Ast where
  | empty
  /-- A character. `byte` marks one written as two hexadecimal digits, which stands for a byte where
  Unicode is switched off. -/
  | literal (c : Char) (byte : Bool)
  | dot
  | assertion (a : Assertion)
  | perl (k : PerlClass) (negated : Bool)
  | unicode (q : UnicodeQuery) (negated : Bool)
  | cls (negated : Bool) (s : ClassSet)
  /-- Switches for the rest of the group. -/
  | flags (fs : FlagSetting)
  /-- A part repeated at least `least` and, if given, at most `most` times. -/
  | repetition (least : Nat) (most : Option Nat) (a : Ast)
  /-- A part between parentheses, remembered or not, with switches of its own. -/
  | group (remembered : Bool) (fs : FlagSetting) (a : Ast)
  | concat (a b : Ast)
  | alternation (a b : Ast)

end Coordination.Text.Pattern
