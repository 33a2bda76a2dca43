import Rulebook.Regex.Basic
import Rulebook.Regex.PatternReader
import Rulebook.Regex.Room

/-!
# From patterns to expressions

A pattern becomes an expression under flags, which the pattern itself can
change: ignoring case, lines of their own, a dot for every character, line ends
of two characters, and text of Unicode characters, which is the only flag that
is on at first.  Without that flag a pattern is about bytes, and is refused if
it could match a part of a character.

An expression that takes too much room is refused as well.
-/

namespace Rulebook

/-- The flags that decide what a pattern means. -/
structure Flags where
  ignoreCase : Bool
  multiLine : Bool
  dotAll : Bool
  crlf : Bool
  unicode : Bool

namespace Flags

/-- The flags at the start of a pattern. -/
def initial : Flags := ⟨false, false, false, false, true⟩

/-- The flags after some of them are changed.  Those that decide only how a
pattern is read or which of several matches is found have no place here. -/
def change (flags : Flags) (changes : FlagChanges) : Flags where
  ignoreCase := (changes.lookup 'i').getD flags.ignoreCase
  multiLine := (changes.lookup 'm').getD flags.multiLine
  dotAll := (changes.lookup 's').getD flags.dotAll
  crlf := (changes.lookup 'R').getD flags.crlf
  unicode := (changes.lookup 'u').getD flags.unicode

/-- The classes of characters that differ in case only. -/
def foldClasses (flags : Flags) : List (List Nat) :=
  if flags.unicode then Unicode.foldClasses else CharSet.asciiClasses

/-- A set as it is matched where case may be ignored. -/
def fold (flags : Flags) (s : CharSet) : CharSet :=
  if flags.ignoreCase then s.closeUnder flags.foldClasses else s

/-- A class, which without Unicode may not match other than ASCII characters. -/
def foldAndNegate? (flags : Flags) (negated : Bool) (s : CharSet) : Option CharSet :=
  if !negated then some (flags.fold s)
  else if flags.unicode then some (.compl (flags.fold s))
  else none

/-- The condition that an anchor asks for. -/
def anchor (flags : Flags) : Anchor → Look
  | .caret => if flags.multiLine then .lineStart flags.crlf else .textStart
  | .dollar => if flags.multiLine then .lineEnd flags.crlf else .textEnd
  | .textStart => .textStart
  | .textEnd => .textEnd
  | .boundary => .wordBoundary flags.unicode
  | .notBoundary => .notWordBoundary flags.unicode
  | .wordStart => .wordStart flags.unicode
  | .wordEnd => .wordEnd flags.unicode
  | .wordStartHalf => .wordStartHalf flags.unicode
  | .wordEndHalf => .wordEndHalf flags.unicode

/-- What a dot matches. -/
def dot? (flags : Flags) : Option CharSet :=
  if !flags.unicode then none
  else if flags.dotAll then some .all
  else if flags.crlf then some (.compl (.ofList ['\r', '\n']))
  else some (.compl (.single '\n'))

end Flags

/-- The characters of an ASCII class. -/
def asciiClass (name : String) : CharSet :=
  match name with
  | "alnum" => .ranges [(0x30, 0x39), (0x41, 0x5A), (0x61, 0x7A)]
  | "alpha" => .ranges [(0x41, 0x5A), (0x61, 0x7A)]
  | "ascii" => .ascii
  | "blank" => .ofList ['\t', ' ']
  | "cntrl" => .ranges [(0x00, 0x1F), (0x7F, 0x7F)]
  | "digit" => .range '0' '9'
  | "graph" => .ranges [(0x21, 0x7E)]
  | "lower" => .range 'a' 'z'
  | "print" => .ranges [(0x20, 0x7E)]
  | "punct" => .ranges [(0x21, 0x2F), (0x3A, 0x40), (0x5B, 0x60), (0x7B, 0x7E)]
  | "space" => .ranges [(0x09, 0x0D), (0x20, 0x20)]
  | "upper" => .range 'A' 'Z'
  | "word" => .ranges [(0x30, 0x39), (0x41, 0x5A), (0x5F, 0x5F), (0x61, 0x7A)]
  | _ => .ranges [(0x30, 0x39), (0x41, 0x46), (0x61, 0x66)]

/-- The characters of a class with an escape of one letter. -/
def LetterClass.toSet (unicode : Bool) : LetterClass → CharSet
  | digit => if unicode then Unicode.digit else asciiClass "digit"
  | space => if unicode then Unicode.space else asciiClass "space"
  | word => if unicode then Unicode.word else asciiClass "word"

/-- The class that an escape of one letter names. -/
def LetterClass.toSet? (flags : Flags) (negated : Bool) (cls : LetterClass) : Option CharSet :=
  let s := cls.toSet flags.unicode
  if !negated then some s else if flags.unicode then some (.compl s) else none

/-- The characters with a property. -/
def PropertyName.toSet? (flags : Flags) (negated : Bool) (name : PropertyName) :
    Option CharSet :=
  let s? := match name with
    | named name => Unicode.named? name
    | valued kind value => Unicode.valued? kind value
  if flags.unicode then s?.bind (flags.foldAndNegate? negated) else none

/-- A character in a bracket. -/
def PatternChar.inClass? (flags : Flags) (c : PatternChar) : Option Nat :=
  if flags.unicode || c.char.toNat < 0x80 then some c.char.toNat else none

/-- The set that an operation makes of two. -/
def ClassOp.apply : ClassOp → CharSet → CharSet → CharSet
  | intersection => .inter
  | difference => .diff
  | symmetricDifference => .symmDiff

mutual

/-- The characters of an item of a bracket. -/
def ClassItem.toSet? (flags : Flags) : ClassItem → Option CharSet
  | .char c => (c.inClass? flags).map fun n => .ranges [(n, n)]
  | .range low high => do return .ranges [(← low.inClass? flags, ← high.inClass? flags)]
  | .ascii name negated => flags.foldAndNegate? negated (asciiClass name)
  | .letter cls negated => cls.toSet? flags negated
  | .property name negated => name.toSet? flags negated
  | .bracket negated body =>
      match body.toSet? flags with
      | some s => flags.foldAndNegate? negated s
      | none => none

/-- The characters of the inside of a bracket. -/
def ClassBody.toSet? (flags : Flags) : ClassBody → Option CharSet
  | .items list => ClassBody.unionOfItems? flags list
  | .op kind left right =>
      match left.toSet? flags, right.toSet? flags with
      | some a, some b => some (kind.apply (flags.fold a) (flags.fold b))
      | _, _ => none

/-- The characters of all items of a list. -/
def ClassBody.unionOfItems? (flags : Flags) : List ClassItem → Option CharSet
  | [] => some .none
  | [item] => item.toSet? flags
  | item :: items =>
      match item.toSet? flags, ClassBody.unionOfItems? flags items with
      | some a, some b => some (.union a b)
      | _, _ => none

end

/-- What a character that is written out matches. -/
def PatternChar.toSet? (flags : Flags) (c : PatternChar) : Option CharSet :=
  if !flags.unicode && c.isByte && 0x80 ≤ c.char.toNat then none
  else some (flags.fold (.single c.char))

namespace Pattern

mutual

/-- The expression of a pattern, and the flags after it. -/
def compile? (flags : Flags) : Pattern → Option (Regex × Flags)
  | empty => some (.empty, flags)
  | char c => (c.toSet? flags).map fun s => (.set s, flags)
  | dot => flags.dot?.map fun s => (.set s, flags)
  | anchor a => some (.look (flags.anchor a), flags)
  | letter cls negated => (cls.toSet? flags negated).map fun s => (.set s, flags)
  | property name negated => (name.toSet? flags negated).map fun s => (.set s, flags)
  | bracket negated body =>
      ((body.toSet? flags).bind (flags.foldAndNegate? negated)).map fun s => (.set s, flags)
  | .flags changes => some (.empty, flags.change changes)
  | group changes body =>
      (compile? (flags.change changes) body).map fun compiled => (compiled.1, flags)
  | capture _ body => (compile? flags body).map fun compiled => (.capture compiled.1, flags)
  | repeated body least most =>
      (compile? flags body).map fun (r, flags) => (.repeated r least most, flags)
  | alt branches => (compileList? flags branches).map fun (rs, flags) => (.alts rs, flags)
  | seq parts => (compileList? flags parts).map fun (rs, flags) => (.seqs rs, flags)

/-- The expressions of a list of patterns, each under the flags that the one
before it leaves. -/
def compileList? (flags : Flags) : List Pattern → Option (List Regex × Flags)
  | [] => some ([], flags)
  | p :: ps =>
      match compile? flags p with
      | some (r, flags) => (compileList? flags ps).map fun (rs, flags) => (r :: rs, flags)
      | none => none

end

end Pattern

namespace Regex

/-- Compiles a pattern. -/
def compile? (pattern : String) : Option Regex := do
  let tree ← Pattern.parse? pattern
  let (r, _) ← tree.compile? .initial
  if r.fits then some r else none

end Regex

end Rulebook
