import Coordination.Text.Regex.Syntax
import Coordination.Text.Unicode.Property
import Coordination.Text.Unicode.Repertoire

/-!
# Reading a pattern

The grammar of patterns, as a machine with a stack of open groups: each step reads one group mark,
one alternation mark, one repetition mark or one item, and a bracketed class is read by a second
machine with a stack of open brackets. In verbose mode blanks and comments are skipped wherever a
step may begin. A pattern that breaks the grammar has no tree.

## Main definitions

* `Pattern.readEscape`: what stands after a backslash
* `Pattern.readClass`: a class after its opening bracket
* `Pattern.read?`: the tree of a whole pattern
-/

namespace Coordination.Text.Pattern

/-! ## Blanks -/

/-- The blanks of the Unicode standard. -/
def blankCharacters : Unicode.CodeSet := Unicode.listedProperty "WSpace"

/-- Whether a character is a blank of the Unicode standard. -/
def isBlank (c : Char) : Bool :=
  c == ' ' || ('\t' ≤ c && c ≤ '\r') || (0x7f < c.toNat && blankCharacters.contains c)

/-- What is left after the blanks and comments at the start, in verbose mode. -/
def skip (verbose : Bool) (cs : List Char) : List Char :=
  if verbose then go false cs else cs
where
  /-- Skips to the first character that is no blank and in no comment. -/
  go (comment : Bool) : List Char → List Char
    | [] => []
    | c :: rest =>
      if comment then go (c != '\n') rest
      else if isBlank c then go false rest
      else if c == '#' then go true rest
      else c :: rest

/-! ## Items after a backslash -/

/-- What a backslash and the characters after it stand for. -/
inductive Escaped where
  | literal (c : Char) (byte : Bool)
  | assertion (a : Assertion)
  | perl (k : PerlClass) (negated : Bool)
  | unicode (q : UnicodeQuery) (negated : Bool)

/-- The characters with a meaning of their own, which a backslash takes away. -/
def isMeta (c : Char) : Bool := "\\.+*?()|[]\x7b\x7d^$#&-~".toList.contains c

/-- Whether a backslash before the character changes nothing. -/
def isPlainEscape (c : Char) : Bool :=
  isMeta c || (c.toNat < 0x80 && !c.isAlphanum && c != '<' && c != '>')

/-- Whether a character is a hexadecimal digit. -/
def isHex (c : Char) : Bool := c.isDigit || ('a' ≤ c && c ≤ 'f') || ('A' ≤ c && c ≤ 'F')

/-- The value of a hexadecimal digit. -/
def hexValue (c : Char) : Nat :=
  if c.isDigit then c.toNat - 48 else if 'a' ≤ c then c.toNat - 87 else c.toNat - 55

/-- The character with the code point that hexadecimal digits denote. -/
def hexChar? (ds : List Char) : Option Char :=
  let n := ds.foldl (fun n d => 16 * n + hexValue d) 0
  if n.isValidChar then some (Char.ofNat n) else none

/-- A fixed number of hexadecimal digits. -/
def readHexDigits (v : Bool) : (n : Nat) → List Char → Option (List Char × List Char)
  | 0, cs => some ([], cs)
  | n + 1, cs =>
    match cs with
    | [] => none
    | c :: rest =>
      if !isHex c then none
      else match readHexDigits v n (skip v rest) with
        | none => none
        | some (ds, rest') => some (c :: ds, rest')

/-- The characters up to a closing brace, and what follows it, blanks left out in verbose mode. -/
def readBraced (v : Bool) : (fuel : Nat) → List Char → Option (List Char × List Char)
  | 0, _ => none
  | fuel + 1, cs =>
    match skip v cs with
    | [] => none
    | '\x7d' :: rest => some ([], rest)
    | c :: rest =>
      match readBraced v fuel rest with
      | none => none
      | some (name, rest') => some (c :: name, rest')

/-- A character by its code point: so many digits, or any number of them between braces. -/
def readHex (v : Bool) (digits : Nat) (cs : List Char) : Option (Escaped × List Char) :=
  match skip v cs with
  | [] => none
  | '\x7b' :: rest =>
    match readBraced v (rest.length + 1) rest with
    | none => none
    | some (ds, rest') =>
      if ds.isEmpty || !ds.all isHex then none
      else (hexChar? ds).map fun c => (.literal c false, skip v rest')
  | rest =>
    match readHexDigits v digits rest with
    | none => none
    | some (ds, rest') => (hexChar? ds).map fun c => (.literal c (digits == 2), rest')

/-- A text cut before and after the first place where `sep` stands in it. -/
def cutAt? (sep : List Char) : List Char → Option (List Char × List Char)
  | [] => none
  | c :: rest =>
    if sep.isPrefixOf (c :: rest) then some ([], (c :: rest).drop sep.length)
    else (cutAt? sep rest).map fun r => (c :: r.1, r.2)

/-- The class that a name between braces asks for. A property and its value may stand on either side
of `=`, `:` or `!=`, which all mean the same: only the letter before the braces negates. -/
def unicodeQuery (name : List Char) : UnicodeQuery :=
  match cutAt? ['!', '='] name with
  | some (p, value) => .valued (String.ofList p) (String.ofList value)
  | none =>
    match cutAt? [':'] name with
    | some (p, value) => .valued (String.ofList p) (String.ofList value)
    | none =>
      match cutAt? ['='] name with
      | some (p, value) => .valued (String.ofList p) (String.ofList value)
      | none => .named (String.ofList name)

/-- A Unicode class: one letter, or a name between braces. -/
def readUnicode (v negated : Bool) (cs : List Char) : Option (Escaped × List Char) :=
  match skip v cs with
  | [] => none
  | '\\' :: _ => none
  | '\x7b' :: rest =>
    match readBraced v (rest.length + 1) rest with
    | none => none
    | some (name, rest') =>
      some (.unicode (unicodeQuery name) negated, rest')
  | c :: rest => some (.unicode (.named (String.singleton c)) negated, skip v rest)

/-- The word boundary with a name between braces. -/
def namedBoundary? (name : List Char) : Option Assertion :=
  [("start", Assertion.wordStart), ("end", .wordEnd), ("start-half", .wordStartHalf),
    ("end-half", .wordEndHalf)].lookup (String.ofList name)

/-- Whether a character can stand in the name of a word boundary. -/
def isBoundaryChar (c : Char) : Bool := c.isAlpha || c == '-'

/-- The name characters at the start, blanks left out in verbose mode, and what follows them. -/
def boundaryName (v : Bool) : (fuel : Nat) → List Char → List Char × List Char
  | 0, cs => ([], cs)
  | fuel + 1, cs =>
    match skip v cs with
    | [] => ([], [])
    | c :: rest =>
      if isBoundaryChar c then
        let r := boundaryName v fuel rest
        (c :: r.1, r.2)
      else ([], c :: rest)

/-- A word boundary, after its letter: plain, or named between braces. Braces that start with no
letter belong to a repetition. -/
def readBoundary (v : Bool) (cs : List Char) : Option (Escaped × List Char) :=
  match cs with
  | '\x7b' :: rest =>
    match skip v rest with
    | [] => none
    | c :: rest' =>
      if !isBoundaryChar c then some (.assertion .wordBoundary, cs)
      else
        match boundaryName v (rest'.length + 1) (c :: rest') with
        | (name, '\x7d' :: rest'') => (namedBoundary? name).map fun a => (.assertion a, rest'')
        | _ => none
  | _ => some (.assertion .wordBoundary, cs)

/-- What stands after a backslash, and what follows it. -/
def readEscape (v : Bool) : List Char → Option (Escaped × List Char)
  | [] => none
  | c :: rest =>
    match c with
    | 'x' => readHex v 2 rest
    | 'u' => readHex v 4 rest
    | 'U' => readHex v 8 rest
    | 'p' => readUnicode v false rest
    | 'P' => readUnicode v true rest
    | 'd' => some (.perl .digit false, rest)
    | 'D' => some (.perl .digit true, rest)
    | 's' => some (.perl .space false, rest)
    | 'S' => some (.perl .space true, rest)
    | 'w' => some (.perl .word false, rest)
    | 'W' => some (.perl .word true, rest)
    | 'a' => some (.literal '\x07' false, rest)
    | 'f' => some (.literal '\x0c' false, rest)
    | 't' => some (.literal '\t' false, rest)
    | 'n' => some (.literal '\n' false, rest)
    | 'r' => some (.literal '\r' false, rest)
    | 'v' => some (.literal '\x0b' false, rest)
    | 'A' => some (.assertion .textStart, rest)
    | 'z' => some (.assertion .textEnd, rest)
    | 'b' => readBoundary v rest
    | 'B' => some (.assertion .noWordBoundary, rest)
    | '<' => some (.assertion .wordStart, rest)
    | '>' => some (.assertion .wordEnd, rest)
    | c => if isPlainEscape c then some (.literal c false, rest) else none

/-! ## Classes between brackets -/

/-- The ASCII classes by name. -/
def asciiClasses : List (String × AsciiClass) := [
  ("alnum", .alnum), ("alpha", .alpha), ("ascii", .ascii), ("blank", .blank), ("cntrl", .cntrl),
  ("digit", .digit), ("graph", .graph), ("lower", .lower), ("print", .print), ("punct", .punct),
  ("space", .space), ("upper", .upper), ("word", .word), ("xdigit", .xdigit)]

/-- An ASCII class, after its opening bracket. -/
def readAscii? (cs : List Char) : Option (ClassSet × List Char) :=
  match cs with
  | ':' :: rest =>
    let negated := rest.head? == some '^'
    let rest := if negated then rest.drop 1 else rest
    let name := rest.takeWhile (· ≠ ':')
    match rest.dropWhile (· ≠ ':') with
    | ':' :: ']' :: rest' =>
      (asciiClasses.lookup (String.ofList name)).map fun k => (.ascii k negated, rest')
    | _ => none
  | _ => none

/-- A bracket that is still open: whether it is negated, the operation whose left side is read, and
the union read so far. -/
structure OpenClass where
  negated : Bool
  pending : Option (ClassOp × ClassSet)
  items : ClassSet

/-- A union with one more item. -/
def ClassSet.add (s item : ClassSet) : ClassSet :=
  match s with
  | .empty => item
  | s => .union s item

/-- The class read so far, its pending operation applied. -/
def OpenClass.close (o : OpenClass) : ClassSet :=
  match o.pending with
  | none => o.items
  | some (op, left) => .op op left o.items

/-- The hyphens at the start, which stand for themselves there. -/
def leadingHyphens (v : Bool) : (fuel : Nat) → ClassSet → List Char → ClassSet × List Char
  | 0, s, cs => (s, cs)
  | fuel + 1, s, cs =>
    match cs with
    | '-' :: rest => leadingHyphens v fuel (s.add (.literal '-')) (skip v rest)
    | cs => (s, cs)

/-- The start of a class after its opening bracket: its negation, and the hyphens and the closing
bracket that stand for themselves there. -/
def openClass (v : Bool) (cs : List Char) : Option (OpenClass × List Char) :=
  let cs := skip v cs
  let negated := cs.head? == some '^'
  let cs := if negated then skip v (cs.drop 1) else cs
  let (s, cs) := leadingHyphens v cs.length .empty cs
  match s, cs with
  | _, [] => none
  | .empty, ']' :: rest =>
    some ({ negated, pending := none, items := .literal ']' }, skip v rest)
  | s, cs => some ({ negated, pending := none, items := s }, cs)

/-- One character or escape of a class. -/
def readClassItem (v : Bool) : List Char → Option (Escaped × List Char)
  | [] => none
  | '\\' :: rest => readEscape v rest
  | c :: rest => some (.literal c false, rest)

/-- An item of a class on its own. -/
def Escaped.toClass? : Escaped → Option ClassSet
  | .literal c _ => some (.literal c)
  | .perl k n => some (.perl k n)
  | .unicode q n => some (.unicode q n)
  | .assertion _ => none

/-- The first character that is no blank, in verbose mode, a number sign before it left out. The
number sign starts a comment, but the look ahead goes no further into it than its blanks. -/
def charAfter (v : Bool) (cs : List Char) : Option Char :=
  if !v then cs.head?
  else
    match cs.dropWhile isBlank with
    | [] => cs.head?
    | '#' :: rest =>
      match rest.dropWhile isBlank with
      | [] => cs.head?
      | c :: _ => some c
    | c :: _ => some c

/-- An item of a class, or a range of characters. A hyphen before the closing bracket or before
another hyphen is no sign of a range. -/
def readClassRange (v : Bool) (cs : List Char) : Option (ClassSet × List Char) :=
  match readClassItem v cs with
  | none => none
  | some (first, rest) =>
    match skip v rest with
    | [] => none
    | '-' :: rest' =>
      let next := charAfter v rest'
      if next == some ']' || next == some '-' then
        first.toClass?.map fun s => (s, '-' :: rest')
      else
        match readClassItem v (skip v rest') with
        | none => none
        | some (last, rest'') =>
          match first, last with
          | .literal a _, .literal b _ => if a ≤ b then some (.range a b, rest'') else none
          | _, _ => none
    | rest' => first.toClass?.map fun s => (s, rest')

/-- The operation that two equal characters name. -/
def classOp? : Char → Option ClassOp
  | '&' => some .intersection
  | '-' => some .difference
  | '~' => some .symmetricDifference
  | _ => none

/-- The innermost open class with one more item. -/
def OpenClass.push (o : OpenClass) (item : ClassSet) : OpenClass :=
  { o with items := o.items.add item }

/-- The rest of a class, given the open brackets, the innermost first. -/
def readClassFrom (v : Bool) : (fuel : Nat) → OpenClass → List OpenClass → List Char →
    Option (Ast × List Char)
  | 0, _, _, _ => none
  | fuel + 1, o, outer, cs =>
    match skip v cs with
    | [] => none
    | ']' :: rest =>
      match outer with
      | [] => some (.cls o.negated o.close, rest)
      | o' :: outer' =>
        readClassFrom v fuel (o'.push (.bracketed o.negated o.close)) outer' rest
    | '[' :: rest =>
      match readAscii? rest with
      | some (s, rest') => readClassFrom v fuel (o.push s) outer rest'
      | none =>
        match openClass v rest with
        | none => none
        | some (o', rest') => readClassFrom v fuel o' (o :: outer) rest'
    | c :: rest =>
      match classOp? c, rest.head? == some c with
      | some op, true =>
        readClassFrom v fuel { o with pending := some (op, o.close), items := .empty } outer
          (rest.drop 1)
      | _, _ =>
        match readClassRange v (c :: rest) with
        | none => none
        | some (s, rest') => readClassFrom v fuel (o.push s) outer rest'

/-- A class after its opening bracket, and what follows it. -/
def readClass (v : Bool) (cs : List Char) : Option (Ast × List Char) :=
  match openClass v cs with
  | none => none
  | some (o, rest) => readClassFrom v (cs.length + 1) o [] rest

/-! ## Groups -/

/-- The switch with this letter. -/
def flag? : Char → Option Flag
  | 'i' => some .ignoreCase
  | 'm' => some .multiLine
  | 's' => some .dotAll
  | 'U' => some .swapGreed
  | 'u' => some .unicode
  | 'R' => some .crlf
  | 'x' => some .verbose
  | _ => none

/-- Switches up to a colon or a closing parenthesis, each at most once, with one minus sign before
those that are turned off. -/
def readFlags : (negated : Bool) → FlagSetting → List Char → Option (FlagSetting × List Char)
  | _, _, [] => none
  | negated, fs, c :: rest =>
    if c == ':' || c == ')' then some (fs, c :: rest)
    else if c == '-' then
      match rest with
      | [] => none
      | d :: _ => if negated || d == ':' || d == ')' then none else readFlags true fs rest
    else
      match flag? c with
      | none => none
      | some f => if fs.any (·.1 == f) then none else readFlags negated (fs ++ [(f, !negated)]) rest

/-- Whether a character can stand in the name of a group. -/
def isNameChar (first : Bool) (c : Char) : Bool :=
  c == '_' || Unicode.alphabetic.contains c ||
    (!first && (Unicode.numeric.contains c || c == '.' || c == '[' || c == ']'))

/-- The name of a group up to its closing angle bracket. -/
def readName (cs : List Char) : Option (String × List Char) :=
  let name := cs.takeWhile (· ≠ '>')
  match name, cs.dropWhile (· ≠ '>') with
  | c :: more, '>' :: rest =>
    if isNameChar true c && more.all (isNameChar false) then some (String.ofList name, rest)
    else none
  | _, _ => none

/-- Whether a switch is set by a list of switches, and to what. -/
def FlagSetting.find? (fs : FlagSetting) (f : Flag) : Option Bool := List.lookup f fs

/-- What an opening parenthesis begins. -/
inductive GroupStart where
  /-- Switches for the rest of the enclosing group. -/
  | switches (fs : FlagSetting)
  /-- A group that is not remembered, with switches of its own. -/
  | plain (fs : FlagSetting)
  /-- A group that is remembered under a number. -/
  | numbered
  /-- A group that is remembered under a name. -/
  | named (name : String)

/-- What follows an opening parenthesis. -/
def readGroupStart (v : Bool) (cs : List Char) : Option (GroupStart × List Char) :=
  match skip v cs with
  | '?' :: '=' :: _ => none
  | '?' :: '!' :: _ => none
  | '?' :: '<' :: '=' :: _ => none
  | '?' :: '<' :: '!' :: _ => none
  | '?' :: 'P' :: '<' :: rest => (readName rest).map fun r => (.named r.1, r.2)
  | '?' :: '<' :: rest => (readName rest).map fun r => (.named r.1, r.2)
  | '?' :: rest =>
    match readFlags false [] rest with
    | some (fs, ')' :: rest') => if fs.isEmpty then none else some (.switches fs, rest')
    | some (fs, ':' :: rest') => some (.plain fs, rest')
    | _ => none
  | rest => some (.numbered, rest)

/-! ## Repetitions -/

/-- A decimal number up to `2 ^ 32 - 1`, blanks around it allowed. -/
def readDecimal (v : Bool) (cs : List Char) : Option (Nat × List Char) :=
  let cs := cs.dropWhile isBlank
  let (ds, rest) := digits (cs.length + 1) cs
  let n := ds.foldl (fun n d => 10 * n + (d.toNat - 48)) 0
  if ds.isEmpty || UInt32.size ≤ n then none else some (n, skip v (rest.dropWhile isBlank))
where
  /-- The digits at the start, blanks left out in verbose mode. -/
  digits : (fuel : Nat) → List Char → List Char × List Char
    | 0, cs => ([], cs)
    | fuel + 1, cs =>
      match cs with
      | c :: rest =>
        if c.isDigit then
          let r := digits fuel (skip v rest)
          (c :: r.1, r.2)
        else ([], c :: rest)
      | [] => ([], [])

/-- The bounds of a repetition, after its opening brace. -/
def readBounds (v : Bool) (cs : List Char) : Option ((Nat × Option Nat) × List Char) :=
  match readDecimal v (skip v cs) with
  | some (least, '\x7d' :: rest) => some ((least, some least), rest)
  | some (least, ',' :: rest) =>
    match skip v rest with
    | '\x7d' :: rest' => some ((least, none), rest')
    | rest' =>
      match readDecimal v rest' with
      | some (most, '\x7d' :: rest'') =>
        if least ≤ most then some ((least, some most), rest'') else none
      | _ => none
  | _ => none

/-- What is left after the mark that makes a repetition prefer fewer rounds. -/
def skipLazy : List Char → List Char
  | '?' :: rest => rest
  | rest => rest

/-! ## The machine -/

/-- A group that is still open: what was read before it, and how it began. -/
structure OpenGroup where
  verbose : Bool
  remembered : Bool
  flags : FlagSetting
  branches : List Ast
  items : List Ast

/-- What is read so far: the switches in force, the names given, the open groups, the finished
branches of the innermost group and the items of its last branch, the latest first. -/
structure Progress where
  verbose : Bool
  names : List String
  outer : List OpenGroup
  branches : List Ast
  items : List Ast

/-- Items one after the other, given the latest first. -/
def concatenation : List Ast → Ast
  | [] => .empty
  | a :: before => before.foldl (fun acc x => .concat x acc) a

/-- Branches of which any may match, given the latest first. -/
def alternatives : List Ast → Ast
  | [] => .empty
  | a :: before => before.foldl (fun acc x => .alternation x acc) a

/-- The tree of the innermost group. -/
def Progress.body (st : Progress) : Ast := alternatives (concatenation st.items :: st.branches)

/-- The progress with one more item. -/
def Progress.push (st : Progress) (a : Ast) : Progress := { st with items := a :: st.items }

/-- Whether a repetition mark may follow an item. -/
def Ast.repeatable : Ast → Bool
  | .flags _ => false
  | .empty => false
  | _ => true

/-- The progress with the last item repeated. -/
def Progress.repeatLast (st : Progress) (least : Nat) (most : Option Nat) : Option Progress :=
  match st.items with
  | a :: items =>
    if a.repeatable then some { st with items := .repetition least most a :: items } else none
  | [] => none

/-- The progress inside a new group. -/
def Progress.enter (st : Progress) (remembered : Bool) (fs : FlagSetting) : Progress :=
  { verbose := (fs.find? .verbose).getD st.verbose
    names := st.names
    outer := ⟨st.verbose, remembered, fs, st.branches, st.items⟩ :: st.outer
    branches := []
    items := [] }

/-- An item that an escape stands for. -/
def Escaped.toAst : Escaped → Ast
  | .literal c byte => .literal c byte
  | .assertion a => .assertion a
  | .perl k n => .perl k n
  | .unicode q n => .unicode q n

/-- One step: the mark or item that starts with `c`. -/
def Progress.step (st : Progress) (c : Char) (rest : List Char) :
    Option (Progress × List Char) :=
  match c with
  | '(' =>
    match readGroupStart st.verbose rest with
    | none => none
    | some (.switches fs, rest') =>
      some ({ st.push (.flags fs) with verbose := (fs.find? .verbose).getD st.verbose }, rest')
    | some (.plain fs, rest') => some (st.enter false fs, rest')
    | some (.numbered, rest') => some (st.enter true [], rest')
    | some (.named name, rest') =>
      if st.names.contains name then none
      else some ({ st.enter true [] with names := name :: st.names }, rest')
  | ')' =>
    match st.outer with
    | [] => none
    | o :: outer =>
      some ({ st with
        verbose := o.verbose, outer := outer, branches := o.branches,
        items := .group o.remembered o.flags st.body :: o.items }, rest)
  | '|' => some ({ st with branches := concatenation st.items :: st.branches, items := [] }, rest)
  | '[' => (readClass st.verbose rest).map fun r => (st.push r.1, r.2)
  | '?' => (st.repeatLast 0 (some 1)).map fun st' => (st', skipLazy rest)
  | '*' => (st.repeatLast 0 none).map fun st' => (st', skipLazy rest)
  | '+' => (st.repeatLast 1 none).map fun st' => (st', skipLazy rest)
  | '\x7b' =>
    match readBounds st.verbose rest with
    | none => none
    | some ((least, most), rest') =>
      (st.repeatLast least most).map fun st' => (st', skipLazy (skip st.verbose rest'))
  | '\\' => (readEscape st.verbose rest).map fun r => (st.push r.1.toAst, r.2)
  | '.' => some (st.push .dot, rest)
  | '^' => some (st.push (.assertion .lineStart), rest)
  | '$' => some (st.push (.assertion .lineEnd), rest)
  | c => some (st.push (.literal c false), rest)

/-- The tree of the remaining pattern, in at most `fuel` steps. -/
def Progress.run : (fuel : Nat) → Progress → List Char → Option Ast
  | 0, _, _ => none
  | fuel + 1, st, cs =>
    match skip st.verbose cs with
    | [] => if st.outer.isEmpty then some st.body else none
    | c :: rest =>
      match st.step c rest with
      | none => none
      | some (st', rest') => run fuel st' rest'

/-- The tree of a pattern; none when the pattern breaks the grammar. -/
def read? (pattern : List Char) : Option Ast :=
  Progress.run (pattern.length + 1) ⟨false, [], [], [], []⟩ pattern

end Coordination.Text.Pattern
