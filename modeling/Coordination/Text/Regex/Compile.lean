import Coordination.Text.Regex.Reader
import Coordination.Text.Regex.Size
import Coordination.Text.Unicode.Folding
import Coordination.Text.Unicode.Lookup

/-!
# From patterns to expressions

The expression that a pattern means under the switches in force. Switches set inside a group last to
its end and run on through its later branches. Where Unicode is switched off, characters are bytes,
and a class that would hold more than ASCII has no expression, since it could match inside a
character. A pattern nested too deeply, or too large once its repetitions are written out, has no
expression either.

## Main definitions

* `Pattern.compile?`: the expression of a pattern tree
* `Regex.ofPattern?`: the expression of a pattern text
-/

namespace Coordination.Text.Pattern

open Unicode (CodeSet)

/-- The switches that matter for matching. -/
structure Flags where
  ignoreCase : Bool
  multiLine : Bool
  dotAll : Bool
  unicode : Bool
  crlf : Bool

/-- The switches at the start of a pattern. -/
def Flags.initial : Flags := ⟨false, false, false, true, false⟩

/-- The switches after some are set. -/
def Flags.set (fl : Flags) (fs : FlagSetting) : Flags :=
  { ignoreCase := (fs.find? .ignoreCase).getD fl.ignoreCase
    multiLine := (fs.find? .multiLine).getD fl.multiLine
    dotAll := (fs.find? .dotAll).getD fl.dotAll
    unicode := (fs.find? .unicode).getD fl.unicode
    crlf := (fs.find? .crlf).getD fl.crlf }

/-! ## Classes -/

/-- The members of an ASCII class. -/
def AsciiClass.members (k : AsciiClass) : CodeSet :=
  match k with
  | .alnum => .ofText "30-39 41-5A 61-7A"
  | .alpha => .ofText "41-5A 61-7A"
  | .ascii => .ofText "0-7F"
  | .blank => .ofText "9 20"
  | .cntrl => .ofText "0-1F 7F"
  | .digit => .ofText "30-39"
  | .graph => .ofText "21-7E"
  | .lower => .ofText "61-7A"
  | .print => .ofText "20-7E"
  | .punct => .ofText "21-2F 3A-40 5B-60 7B-7E"
  | .space => .ofText "9-D 20"
  | .upper => .ofText "41-5A"
  | .word => .ofText "30-39 41-5A 5F 61-7A"
  | .xdigit => .ofText "30-39 41-46 61-66"

/-- The members of a class with a letter of its own, in Unicode or among the ASCII characters. -/
def PerlClass.members (unicode : Bool) : PerlClass → CodeSet
  | .digit => if unicode then Unicode.category "Nd" else AsciiClass.digit.members
  | .space => if unicode then blankCharacters else AsciiClass.space.members
  | .word => if unicode then Unicode.wordCharacters else AsciiClass.word.members

/-- The members of a Unicode class; none for an unknown name. -/
def UnicodeQuery.members? : UnicodeQuery → Option CodeSet
  | .named name => Unicode.named? name
  | .valued property value => Unicode.valued? property value

/-- The ASCII letters in a set, each with its other case. -/
def foldAscii (s : CodeSet) : CodeSet :=
  s.union (.ofCodes ((List.range 26).flatMap fun k =>
    if s.containsCode (65 + k) || s.containsCode (97 + k) then [65 + k, 97 + k] else []))

/-- A class with the case variants of its members, where case is ignored. -/
def Flags.fold (fl : Flags) (s : CodeSet) : CodeSet :=
  if !fl.ignoreCase then s else if fl.unicode then s.foldCase else foldAscii s

/-- A class or its complement. Where characters are bytes, the complement would hold bytes that are
no characters. -/
def Flags.negateIf (fl : Flags) (negated : Bool) (s : CodeSet) : Option CodeSet :=
  if !negated then some s else if fl.unicode then some s.complement else none

/-- The members of a class. -/
def ClassSet.members? (fl : Flags) : ClassSet → Option CodeSet
  | .empty => some .empty
  | .literal c => if fl.unicode || c.toNat < 0x80 then some (.ofCodes [c.toNat]) else none
  | .range a b =>
    if fl.unicode || b.toNat < 0x80 then some (.ofRanges [(a.toNat, b.toNat)]) else none
  | .ascii k negated => fl.negateIf negated (fl.fold k.members)
  | .perl k negated => fl.negateIf negated (k.members fl.unicode)
  | .unicode q negated =>
    if fl.unicode then q.members?.bind fun s => fl.negateIf negated (fl.fold s) else none
  | .bracketed negated s =>
    match s.members? fl with
    | none => none
    | some s => fl.negateIf negated (fl.fold s)
  | .union a b =>
    match a.members? fl, b.members? fl with
    | some s, some t => some (s.union t)
    | _, _ => none
  | .op o a b =>
    match a.members? fl, b.members? fl with
    | some s, some t =>
      match o with
      | .intersection => some ((fl.fold s).inter (fl.fold t))
      | .difference => some ((fl.fold s).difference (fl.fold t))
      | .symmetricDifference => some ((fl.fold s).symmetricDifference (fl.fold t))
    | _, _ => none

/-! ## Expressions -/

/-- What an assertion asks under the switches in force. -/
def Assertion.look (fl : Flags) : Assertion → Look
  | .lineStart =>
    if !fl.multiLine then .textStart else if fl.crlf then .crlfLineStart else .lineStart
  | .lineEnd => if !fl.multiLine then .textEnd else if fl.crlf then .crlfLineEnd else .lineEnd
  | .textStart => .textStart
  | .textEnd => .textEnd
  | .wordBoundary => .wordBoundary fl.unicode
  | .noWordBoundary => .noWordBoundary fl.unicode
  | .wordStart => .wordStart fl.unicode
  | .wordEnd => .wordEnd fl.unicode
  | .wordStartHalf => .wordStartHalf fl.unicode
  | .wordEndHalf => .wordEndHalf fl.unicode

/-- The expression of the dot under the switches in force. -/
def Flags.dot? (fl : Flags) : Option Regex :=
  if !fl.unicode then none
  else if fl.dotAll then some (.oneOf CodeSet.empty.complement)
  else if fl.crlf then some (.oneOf (CodeSet.ofText "A D").complement)
  else some (.oneOf (CodeSet.ofText "A").complement)

/-- The expression of a single character under the switches in force. -/
def Flags.literal? (fl : Flags) (c : Char) (byte : Bool) : Option Regex :=
  if !fl.unicode && byte && 0x80 ≤ c.toNat then none
  else if !fl.ignoreCase then some (.literal [c])
  else if fl.unicode then some (.ofSet (.ofCodes (Unicode.caseVariants c.toNat)))
  else some (.ofSet (foldAscii (.ofCodes [c.toNat])))

/-- The expressions of the branches of a pattern tree under the switches in force, and the switches
after it. A tree that is no choice has one branch. -/
def compileWith (fl : Flags) : Ast → Option (List Regex × Flags)
  | .empty => some ([.empty], fl)
  | .literal c byte => (fl.literal? c byte).map fun r => ([r], fl)
  | .dot => fl.dot?.map fun r => ([r], fl)
  | .assertion a => some ([.look (a.look fl)], fl)
  | .perl k negated =>
    (fl.negateIf negated (k.members fl.unicode)).map fun s => ([.ofSet s], fl)
  | .unicode q negated =>
    (ClassSet.members? fl (.unicode q negated)).map fun s => ([.ofSet s], fl)
  | .cls negated s =>
    (ClassSet.members? fl (.bracketed negated s)).map fun s => ([.ofSet s], fl)
  | .flags fs => some ([.empty], fl.set fs)
  | .repetition least most a =>
    match compileWith fl a with
    | none => none
    | some (rs, fl') => some ([(Regex.anyOf rs).repeated least most], fl')
  | .group remembered fs a =>
    match compileWith (fl.set fs) a with
    | none => none
    | some (rs, _) =>
      some ([if remembered then .group (.anyOf rs) else .anyOf rs], fl)
  | .concat a b =>
    match compileWith fl a with
    | none => none
    | some (rs, fl') =>
      match compileWith fl' b with
      | none => none
      | some (ss, fl'') => some ([(Regex.anyOf rs).append (.anyOf ss)], fl'')
  | .alternation a b =>
    match compileWith fl a with
    | none => none
    | some (rs, fl') =>
      match compileWith fl' b with
      | none => none
      | some (ss, fl'') => some (Regex.anyOf rs :: ss, fl'')

/-! ## Limits -/

/-- How deeply a class is nested; a row of items counts once. -/
def ClassSet.depth (inRow : Bool) : ClassSet → Nat
  | .bracketed _ s => s.depth false + 1
  | .union a b => max (a.depth true) (b.depth false) + (if inRow then 0 else 1)
  | .op _ a b => max (a.depth false) (b.depth false) + 1
  | _ => 0

/-- What a part of a pattern stands in a row of. -/
inductive Row where
  | none
  | concat
  | alternation
  deriving DecidableEq

/-- How deeply a pattern is nested; a row of parts counts once. -/
def Ast.depth (row : Row) : Ast → Nat
  | .cls _ s => s.depth false + 1
  | .repetition _ _ a => a.depth .none + 1
  | .group _ _ a => a.depth .none + 1
  | .concat a b => max (a.depth .none) (b.depth .concat) + (if row = .concat then 0 else 1)
  | .alternation a b =>
    max (a.depth .none) (b.depth .alternation) + (if row = .alternation then 0 else 1)
  | _ => 0

/-- How deeply a pattern may be nested. -/
def maxDepth : Nat := 250

/-- The expression of a pattern tree; none when the pattern has none or breaks a limit. -/
def compile? (a : Ast) : Option Regex :=
  if maxDepth < a.depth .none then none
  else
    match compileWith .initial a with
    | none => none
    | some (rs, _) =>
      let r := Regex.anyOf rs
      if r.fits then some r else none

end Coordination.Text.Pattern

namespace Coordination.Text

/-- The expression of a pattern; none when the pattern is malformed. -/
def Regex.ofPattern? (pattern : String) : Option Regex :=
  (Pattern.read? pattern.toList).bind Pattern.compile?

end Coordination.Text
