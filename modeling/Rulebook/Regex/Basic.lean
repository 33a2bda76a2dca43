import Rulebook.Unicode.Lookup

/-!
# Regular expressions

An expression is matched against a text by sets of positions.  A position is
the number of characters in front of it, a set of positions is a natural number
with a bit for each, and an expression takes the positions where a match may
start to those where it may end.  So every choice an expression leaves open is
followed at once, and no order among choices matters.

Before that the expression is laid over the text: the set of characters of a
step becomes the set of positions in front of such a character, and a condition
becomes the set of positions where it holds.
-/

namespace Rulebook

/-- A condition on the characters around a position. -/
inductive Look where
  | textStart
  | textEnd
  /-- With `crlf`, a carriage return and a line feed end a line together. -/
  | lineStart (crlf : Bool)
  | lineEnd (crlf : Bool)
  | wordBoundary (unicode : Bool)
  | notWordBoundary (unicode : Bool)
  | wordStart (unicode : Bool)
  | wordEnd (unicode : Bool)
  /-- No word goes on before the position. -/
  | wordStartHalf (unicode : Bool)
  /-- No word goes on after the position. -/
  | wordEndHalf (unicode : Bool)
deriving DecidableEq, Inhabited

namespace Look

/-- Whether there is a character of a word. -/
def isWord (unicode : Bool) : Option Char → Bool
  | none => false
  | some c => if unicode then Unicode.word.mem c else c.isAlphanum || c = '_'

/-- Whether a condition holds between two characters, absent at the ends. -/
def holds (look : Look) (before after : Option Char) : Bool :=
  match look with
  | textStart => before.isNone
  | textEnd => after.isNone
  | lineStart false => before.isNone || before = some '\n'
  | lineStart true =>
      before.isNone || before = some '\n' || (before = some '\r' && after != some '\n')
  | lineEnd false => after.isNone || after = some '\n'
  | lineEnd true =>
      after.isNone || after = some '\r' || (after = some '\n' && before != some '\r')
  | wordBoundary u => isWord u before != isWord u after
  | notWordBoundary u => isWord u before == isWord u after
  | wordStart u => !isWord u before && isWord u after
  | wordEnd u => isWord u before && !isWord u after
  | wordStartHalf u => !isWord u before
  | wordEndHalf u => !isWord u after

end Look

/-- A regular expression. -/
inductive Regex where
  | empty
  /-- One character of a set. -/
  | set (s : CharSet)
  /-- No character, where a condition holds. -/
  | look (l : Look)
  | seq (a b : Regex)
  | alt (a b : Regex)
  /-- At least and, unless there is no limit, at most so many times. -/
  | repeated (r : Regex) (least : Nat) (most : Option Nat)
  /-- An expression whose match is kept. -/
  | capture (r : Regex)
deriving Inhabited

/-- A set of positions, as the bits of a number. -/
abbrev Positions := Nat

namespace Positions

/-- The positions in front of the characters that a test accepts. -/
def before (test : Char → Bool) : List Char → Positions
  | [] => 0
  | c :: text => (test c).toNat + 2 * before test text

/-- The positions where a condition holds, `last` being the character in front
of the text. -/
def looking (look : Look) (last : Option Char) : List Char → Positions
  | [] => (look.holds last none).toNat
  | c :: text => (look.holds last (some c)).toNat + 2 * looking look (some c) text

/-- All positions of a text of the given length. -/
def upTo (length : Nat) : Positions :=
  Nat.pow 2 (length + 1) - 1

/-- Takes a step up to `count` times, but stops where it changes nothing. -/
def settle (step : Positions → Positions) : Nat → Positions → Positions
  | 0, here => here
  | count + 1, here =>
      let next := step here
      if next = here then here else settle step count next

end Positions

/-- A regular expression laid over a text. -/
inductive Layover where
  /-- Moves on by one from these positions. -/
  | step (starts : Positions)
  /-- Stays at these positions. -/
  | stay (points : Positions)
  | seq (a b : Layover)
  | alt (a b : Layover)
  | repeated (r : Layover) (least : Nat) (most : Option Nat)

namespace Layover

/-- The positions that are reached from others.  A repetition without a limit
needs no more rounds than the text is long: a round that moves at all moves
forward. -/
def reach (length : Nat) : Layover → Positions → Positions
  | step starts, here => (here &&& starts) <<< 1
  | stay points, here => here &&& points
  | seq a b, here => b.reach length (a.reach length here)
  | alt a b, here => a.reach length here ||| b.reach length here
  | repeated r least most, here =>
      let begun := Positions.settle (fun p => r.reach length p) least here
      Positions.settle (fun p => p ||| r.reach length p)
        (most.elim length fun most => most - least) begun

end Layover

namespace Regex

/-- Lays an expression over a text. -/
def layOver (text : List Char) : Regex → Layover
  | empty => .stay (Positions.upTo text.length)
  | set s => .step (Positions.before s.mem text)
  | look l => .stay (Positions.looking l none text)
  | seq a b => .seq (a.layOver text) (b.layOver text)
  | alt a b => .alt (a.layOver text) (b.layOver text)
  | repeated r least most => .repeated (r.layOver text) least most
  | capture r => r.layOver text

/-- Whether an expression matches somewhere in a text. -/
def isMatchChars (r : Regex) (text : List Char) : Bool :=
  (r.layOver text).reach text.length (Positions.upTo text.length) != 0

/-- `isMatchChars` on strings. -/
def isMatch (r : Regex) (text : String) : Bool :=
  r.isMatchChars text.toList

/-- Expressions one after the other. -/
def seqs : List Regex → Regex
  | [] => empty
  | [r] => r
  | r :: rs => seq r (seqs rs)

/-- A choice among expressions. -/
def alts : List Regex → Regex
  | [] => set .none
  | [r] => r
  | r :: rs => alt r (alts rs)

/-- The expression for one character. -/
def char (c : Char) : Regex := set (.single c)

/-- The expression for a text. -/
def literal (text : String) : Regex := seqs (text.toList.map char)

/-- An expression or nothing. -/
def optional (r : Regex) : Regex := .repeated r 0 (some 1)

/-- An expression any number of times. -/
def star (r : Regex) : Regex := .repeated r 0 none

/-- An expression at least once. -/
def plus (r : Regex) : Regex := .repeated r 1 none

/-- An expression so many times. -/
def times (r : Regex) (count : Nat) : Regex := .repeated r count (some count)

/-- An expression that has to match a whole text. -/
def whole (r : Regex) : Regex :=
  seqs [look .textStart, r, look .textEnd]

end Regex

end Rulebook
