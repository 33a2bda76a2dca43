import Rulebook.Number.Numeral
import Rulebook.Regex.Pattern
import Rulebook.Text.Blank
import Rulebook.Text.Hex
import Rulebook.Unicode.GroupName

/-!
# Reading patterns

The notation of patterns.  There is no look-around and no reference back to a
group; in verbose mode blanks and comments do not count.
-/

namespace Rulebook.Pattern

open Text

/-- Skips a comment up to and with the end of its line. -/
def skipComment (s : List Char) : List Char :=
  (s.dropWhile (· != '\n')).drop 1

theorem length_skipComment_le (s : List Char) : (skipComment s).length ≤ s.length := by
  have h := (List.dropWhile_sublist (p := (· != '\n')) (l := s)).length_le
  simp only [skipComment, List.length_drop]
  omega

/-- In verbose mode, skips blanks and comments. -/
def skipVerbose (verbose : Bool) (s : List Char) : List Char :=
  if !verbose then s
  else
    match s with
    | [] => []
    | c :: rest =>
        if isBlank c then skipVerbose verbose rest
        else if c = '#' then skipVerbose verbose (skipComment rest)
        else c :: rest
termination_by s.length
decreasing_by
  · simp
  · have := length_skipComment_le rest
    simp only [List.length_cons]
    omega

/-- The character that a code point names. -/
def charOf? (code : Nat) : Option Char :=
  if h : code.isValidChar then some (Char.ofNatAux code h) else none

/-- Reads so many hexadecimal digits. -/
def readHexDigits? (verbose : Bool) (value : Nat) : Nat → List Char → Option (Nat × List Char)
  | 0, s => some (value, s)
  | _ + 1, [] => none
  | count + 1, c :: rest =>
      match hexValue? c with
      | some digit =>
          readHexDigits? verbose (value * 16 + digit) count (skipVerbose verbose rest)
      | none => none

/-- Takes the characters up to a closing brace. -/
def readBraced? (verbose : Bool) : Nat → List Char → Option (List Char × List Char)
  | 0, _ => none
  | fuel + 1, s =>
      match skipVerbose verbose s with
      | [] => none
      | '\x7d' :: rest => some ([], rest)
      | c :: rest => (readBraced? verbose fuel rest).map fun (cs, rest) => (c :: cs, rest)

/-- Reads the digits of a character code after its letter. -/
def readHex? (verbose : Bool) (count : Nat) (s : List Char) :
    Option (PatternChar × List Char) :=
  match skipVerbose verbose s with
  | '\x7b' :: rest => do
      let (digits, rest) ← readBraced? verbose (rest.length + 1) rest
      let values ← digits.mapM hexValue?
      if values.isEmpty then none
      else
        let c ← charOf? (values.foldl (fun n d => n * 16 + d) 0)
        return (⟨c, false⟩, skipVerbose verbose rest)
  | s => do
      let (value, rest) ← readHexDigits? verbose 0 count s
      let c ← charOf? value
      return (⟨c, count = 2⟩, rest)

/-- Cuts a text in two at the first occurrence of a mark. -/
def cutAt? (mark : List Char) : List Char → Option (List Char × List Char)
  | [] => none
  | c :: rest =>
      if mark.isPrefixOf (c :: rest) then some ([], (c :: rest).drop mark.length)
      else (cutAt? mark rest).map fun (front, back) => (c :: front, back)

/-- The property that the text between braces names, and whether the characters
without it are meant. -/
def propertyNamed (text : List Char) : PropertyName × Bool :=
  let valued (parts : List Char × List Char) : PropertyName :=
    .valued (String.ofList parts.1) (String.ofList parts.2)
  match cutAt? ['!', '='] text, cutAt? [':'] text, cutAt? ['='] text with
  | some parts, _, _ => (valued parts, true)
  | none, some parts, _ => (valued parts, false)
  | none, none, some parts => (valued parts, false)
  | none, none, none => (.named (String.ofList text), false)

/-- Reads the name of a property after its letter. -/
def readProperty? (verbose negated : Bool) (s : List Char) : Option (Pattern × List Char) :=
  match skipVerbose verbose s with
  | [] | '\\' :: _ => none
  | '\x7b' :: rest => do
      let (text, rest) ← readBraced? verbose (rest.length + 1) rest
      let (name, without) := propertyNamed text
      return (.property name (negated != without), rest)
  | c :: rest => some (.property (.named (String.ofList [c])) negated, skipVerbose verbose rest)

/-- Reads what a boundary can say about itself between braces.  A brace with
anything else in it is left for a repetition. -/
def readBoundary? (verbose : Bool) (s : List Char) : Option (Pattern × List Char) :=
  let plain : Option (Pattern × List Char) := some (.anchor .boundary, s)
  let isNameChar (c : Char) : Bool := c.isAlpha || c = '-'
  match s with
  | '\x7b' :: rest =>
      match skipVerbose verbose rest with
      | [] => none
      | c :: _ =>
          if !isNameChar c then plain
          else
            match readBraced? verbose (rest.length + 1) rest with
            | none => none
            | some (name, rest) =>
                if name = "start".toList then some (.anchor .wordStart, rest)
                else if name = "end".toList then some (.anchor .wordEnd, rest)
                else if name = "start-half".toList then some (.anchor .wordStartHalf, rest)
                else if name = "end-half".toList then some (.anchor .wordEndHalf, rest)
                else none
  | _ => plain

/-- The characters that mean something and lose it after a backslash. -/
def isMeta (c : Char) : Bool :=
  "\\.+*?()|[]\x7b\x7d^$#&-~".toList.contains c

/-- Whether a backslash in front leaves a character as it is. -/
def isPlainEscape (c : Char) : Bool :=
  isMeta c || (c.toNat < 0x80 && !c.isAlphanum && c != '<' && c != '>')

/-- Reads what stands after a backslash. -/
def readEscape? (verbose : Bool) : List Char → Option (Pattern × List Char)
  | [] => none
  | c :: rest =>
      let char (d : Char) : Option (Pattern × List Char) := some (.char ⟨d, false⟩, rest)
      let code (count : Nat) : Option (Pattern × List Char) :=
        (readHex? verbose count rest).map fun (d, rest) => (.char d, rest)
      let letter (cls : LetterClass) (negated : Bool) : Option (Pattern × List Char) :=
        some (.letter cls negated, rest)
      let anchor (a : Anchor) : Option (Pattern × List Char) := some (.anchor a, rest)
      if isPlainEscape c then char c
      else
        match c with
        | 'x' => code 2
        | 'u' => code 4
        | 'U' => code 8
        | 'p' => readProperty? verbose false rest
        | 'P' => readProperty? verbose true rest
        | 'd' => letter .digit false
        | 'D' => letter .digit true
        | 's' => letter .space false
        | 'S' => letter .space true
        | 'w' => letter .word false
        | 'W' => letter .word true
        | 'a' => char '\x07'
        | 'f' => char '\x0c'
        | 't' => char '\t'
        | 'n' => char '\n'
        | 'r' => char '\r'
        | 'v' => char '\x0b'
        | 'A' => anchor .textStart
        | 'z' => anchor .textEnd
        | 'b' => readBoundary? verbose rest
        | 'B' => anchor .notBoundary
        | '<' => anchor .wordStart
        | '>' => anchor .wordEnd
        | _ => none

/-- The names of the ASCII classes. -/
def asciiClassNames : List String :=
  ["alnum", "alpha", "ascii", "blank", "cntrl", "digit", "graph", "lower", "print", "punct",
    "space", "upper", "word", "xdigit"]

/-- Reads an ASCII class after its bracket, if one stands there. -/
def readAsciiClass? (s : List Char) : Option (ClassItem × List Char) :=
  match s with
  | ':' :: rest =>
      let (negated, rest) := match rest with
        | '^' :: rest => (true, rest)
        | _ => (false, rest)
      let name := String.ofList (rest.takeWhile (· != ':'))
      match rest.dropWhile (· != ':') with
      | ':' :: ']' :: rest =>
          if asciiClassNames.contains name then some (.ascii name negated, rest) else none
      | _ => none
  | _ => none

/-- The character after a hyphen, blanks left out in verbose mode. -/
def peekAfter (verbose : Bool) (rest : List Char) : Option Char :=
  if !verbose then rest.head?
  else
    match rest.dropWhile isBlank with
    | '#' :: rest => (rest.dropWhile isBlank).head?
    | rest => rest.head?

/-- Reads one character or escape in a bracket. -/
def readClassPart? (verbose : Bool) : List Char → Option (Pattern × List Char)
  | [] => none
  | '\\' :: rest => readEscape? verbose rest
  | c :: rest => some (.char ⟨c, false⟩, rest)

/-- The item of a bracket that a part makes. -/
def toClassItem? : Pattern → Option ClassItem
  | char c => some (.char c)
  | letter cls negated => some (.letter cls negated)
  | property name negated => some (.property name negated)
  | _ => none

/-- Reads an item of a bracket, which can be a range. -/
def readClassItem? (verbose : Bool) (s : List Char) : Option (ClassItem × List Char) := do
  let (first, rest) ← readClassPart? verbose s
  let rest := skipVerbose verbose rest
  match rest with
  | [] => none
  | '-' :: after =>
      let next := peekAfter verbose after
      if next = some ']' || next = some '-' then return (← toClassItem? first, rest)
      else
        let (second, rest) ← readClassPart? verbose (skipVerbose verbose after)
        match first, second with
        | char low, char high =>
            if low.char ≤ high.char then return (.range low high, rest) else none
        | _, _ => none
  | _ => return (← toClassItem? first, rest)

/-- The hyphens at the start of a bracket, which stand for themselves. -/
def readHyphens (verbose : Bool) : Nat → List Char → List ClassItem × List Char
  | fuel + 1, '-' :: rest =>
      let (items, rest) := readHyphens verbose fuel (skipVerbose verbose rest)
      (.char ⟨'-', false⟩ :: items, rest)
  | _, s => ([], s)

/-- The start of a bracket: whether it is negated, and the items that stand for
themselves only there. -/
def readClassStart (verbose : Bool) (s : List Char) : Bool × List ClassItem × List Char :=
  let (negated, s) := match skipVerbose verbose s with
    | '^' :: rest => (true, skipVerbose verbose rest)
    | s => (false, s)
  let (hyphens, s) := readHyphens verbose s.length s
  match hyphens, s with
  | [], ']' :: rest => (negated, [.char ⟨']', false⟩], skipVerbose verbose rest)
  | _, s => (negated, hyphens, s)

/-- The inside of a bracket from the operation so far and the items after it. -/
def closeBody (pending : Option (ClassOp × ClassBody)) (items : List ClassItem) : ClassBody :=
  match pending with
  | none => .items items.reverse
  | some (kind, left) => .op kind left (.items items.reverse)

/-- Reads the inside of a bracket up to its end.  The items are in reverse. -/
def readClassBody? (verbose : Bool) : Nat → Option (ClassOp × ClassBody) → List ClassItem →
    List Char → Option (ClassBody × List Char)
  | 0, _, _, _ => none
  | fuel + 1, pending, items, s =>
      let operate (kind : ClassOp) (rest : List Char) :=
        readClassBody? verbose fuel (some (kind, closeBody pending items)) [] rest
      match skipVerbose verbose s with
      | [] => none
      | '[' :: rest =>
          match readAsciiClass? rest with
          | some (item, rest) => readClassBody? verbose fuel pending (item :: items) rest
          | none =>
              let (negated, first, rest) := readClassStart verbose rest
              match readClassBody? verbose fuel none first.reverse rest with
              | some (body, rest) =>
                  readClassBody? verbose fuel pending (.bracket negated body :: items) rest
              | none => none
      | ']' :: rest => some (closeBody pending items, rest)
      | '&' :: '&' :: rest => operate .intersection rest
      | '-' :: '-' :: rest => operate .difference rest
      | '~' :: '~' :: rest => operate .symmetricDifference rest
      | s =>
          match readClassItem? verbose s with
          | some (item, rest) => readClassBody? verbose fuel pending (item :: items) rest
          | none => none

/-- Reads a bracket after its first character. -/
def readBracket? (verbose : Bool) (s : List Char) : Option (Pattern × List Char) := do
  let (negated, first, rest) := readClassStart verbose s
  let (body, rest) ← readClassBody? verbose (s.length + 1) none first.reverse rest
  return (.bracket negated body, rest)

/-- Reads the digits of a count, between which verbose mode allows blanks. -/
def readCountDigits (verbose : Bool) : Nat → List Char → List Char × List Char
  | fuel + 1, c :: rest =>
      if c.isDigit then
        let (digits, rest) := readCountDigits verbose fuel (skipVerbose verbose rest)
        (c :: digits, rest)
      else ([], c :: rest)
  | _, s => ([], s)

/-- Skips blanks, and comments between them in verbose mode. -/
def skipBlanks (verbose : Bool) : Nat → List Char → List Char
  | fuel + 1, c :: rest =>
      if isBlank c then skipBlanks verbose fuel (skipVerbose verbose rest) else c :: rest
  | _, s => s

/-- Reads a count of 32 bits with blanks around it. -/
def readCount? (verbose : Bool) (s : List Char) : Option (Nat × List Char) :=
  let (digits, rest) := readCountDigits verbose s.length (s.dropWhile isBlank)
  let value := digitsValue digits
  if digits.isEmpty || Nat.pow 2 32 ≤ value then none
  else some (value, skipBlanks verbose rest.length rest)

/-- Skips the mark that asks for short matches. -/
def skipLazy : List Char → List Char
  | '?' :: rest => rest
  | s => s

/-- Reads the counts of a repetition after the brace. -/
def readCounts? (verbose : Bool) (s : List Char) :
    Option (Nat × Option Nat × List Char) := do
  let (least, rest) ← readCount? verbose (skipVerbose verbose s)
  let close (most : Option Nat) (rest : List Char) : Option (Nat × Option Nat × List Char) :=
    if most.all (least ≤ ·) then some (least, most, skipLazy (skipVerbose verbose rest)) else none
  match rest with
  | '\x7d' :: rest => close (some least) rest
  | ',' :: rest =>
      match skipVerbose verbose rest with
      | '\x7d' :: rest => close none rest
      | rest =>
          let (most, rest) ← readCount? verbose rest
          match rest with
          | '\x7d' :: rest => close (some most) rest
          | _ => none
  | _ => none

/-- How a group starts. -/
inductive GroupStart where
  /-- Flags for the rest of the group around it. -/
  | flags (changes : FlagChanges)
  | group (changes : FlagChanges)
  | capture (name : Option String)

/-- Reads flags up to the character that ends them.  A hyphen turns the flags
after it off. -/
def readFlags? (seen : FlagChanges) (on dangling : Bool) :
    List Char → Option (FlagChanges × Char × List Char)
  | [] => none
  | c :: rest =>
      if c = ':' || c = ')' then if dangling then none else some (seen.reverse, c, rest)
      else if c = '-' then if on then readFlags? seen false true rest else none
      else if "imsURux".toList.contains c && !(seen.map Prod.fst).contains c then
        readFlags? ((c, on) :: seen) on false rest
      else none

/-- Whether a character can stand in the name of a group. -/
def isNameChar (first : Bool) (c : Char) : Bool :=
  if first then c = '_' || Unicode.nameLetters.mem c
  else c = '_' || c = '.' || c = '[' || c = ']' || Unicode.nameLettersAndNumbers.mem c

/-- Reads the name of a group. -/
def readGroupName? (s : List Char) : Option (GroupStart × List Char) :=
  let name := s.takeWhile (· != '>')
  match name, s.dropWhile (· != '>') with
  | c :: cs, '>' :: rest =>
      if isNameChar true c && cs.all (isNameChar false) then
        some (.capture (some (String.ofList name)), rest)
      else none
  | _, _ => none

/-- Reads the start of a group after its parenthesis. -/
def readGroupStart? (verbose : Bool) (s : List Char) : Option (GroupStart × List Char) :=
  match skipVerbose verbose s with
  | '?' :: '=' :: _ | '?' :: '!' :: _ | '?' :: '<' :: '=' :: _ | '?' :: '<' :: '!' :: _ => none
  | '?' :: 'P' :: '<' :: rest => readGroupName? rest
  | '?' :: '<' :: rest => readGroupName? rest
  | '?' :: rest =>
      match readFlags? [] true false rest with
      | some (changes, ')', rest) => if changes.isEmpty then none else some (.flags changes, rest)
      | some (changes, _, rest) => some (.group changes, rest)
      | none => none
  | rest => some (.capture none, rest)

/-- Whether something can be repeated. -/
def isRepeatable : Pattern → Bool
  | empty | flags _ => false
  | _ => true

/-- Repeats the last part, the parts being in reverse. -/
def repeatLast? (least : Nat) (most : Option Nat) : List Pattern → Option (List Pattern)
  | [] => none
  | last :: parts => if isRepeatable last then some (repeated last least most :: parts) else none

/-- Reads branches up to the end of their group, which is left to the caller.
The branches and the parts of the last one are in reverse. -/
def readBranches? : Nat → Bool → List Pattern → List Pattern → List Char →
    Option (Pattern × List Char)
  | 0, _, _, _, _ => none
  | fuel + 1, verbose, branches, parts, s =>
      let again (parts : Option (List Pattern)) (rest : List Char) : Option (Pattern × List Char) :=
        match parts with
        | some parts => readBranches? fuel verbose branches parts rest
        | none => none
      let part (read : Option (Pattern × List Char)) : Option (Pattern × List Char) :=
        match read with
        | some (p, rest) => readBranches? fuel verbose branches (p :: parts) rest
        | none => none
      match skipVerbose verbose s with
      | [] => some (ofBranches (ofParts parts.reverse :: branches).reverse, [])
      | ')' :: rest => some (ofBranches (ofParts parts.reverse :: branches).reverse, ')' :: rest)
      | '|' :: rest => readBranches? fuel verbose (ofParts parts.reverse :: branches) [] rest
      | '(' :: rest =>
          match readGroupStart? verbose rest with
          | none => none
          | some (.flags changes, rest) =>
              readBranches? fuel ((changes.lookup 'x').getD verbose) branches
                (flags changes :: parts) rest
          | some (.group changes, rest) =>
              match readBranches? fuel ((changes.lookup 'x').getD verbose) [] [] rest with
              | some (body, ')' :: rest) => part (some (group changes body, rest))
              | _ => none
          | some (.capture name, rest) =>
              match readBranches? fuel verbose [] [] rest with
              | some (body, ')' :: rest) => part (some (capture name body, rest))
              | _ => none
      | '[' :: rest => part (readBracket? verbose rest)
      | '?' :: rest => again (repeatLast? 0 (some 1) parts) (skipLazy rest)
      | '*' :: rest => again (repeatLast? 0 none parts) (skipLazy rest)
      | '+' :: rest => again (repeatLast? 1 none parts) (skipLazy rest)
      | '\x7b' :: rest =>
          match readCounts? verbose rest with
          | some (least, most, rest) => again (repeatLast? least most parts) rest
          | none => none
      | '\\' :: rest => part (readEscape? verbose rest)
      | '.' :: rest => part (some (dot, rest))
      | '^' :: rest => part (some (anchor .caret, rest))
      | '$' :: rest => part (some (anchor .dollar, rest))
      | c :: rest => part (some (char ⟨c, false⟩, rest))

/-- How deep a pattern may nest. -/
def depthLimit : Nat := 250

/-- Reads a pattern.  Its groups have distinct names. -/
def parse? (text : String) : Option Pattern :=
  let s := text.toList
  match readBranches? (s.length + 1) false [] [] s with
  | some (pattern, []) =>
      if pattern.depth ≤ depthLimit && pattern.groupNames.Nodup then some pattern else none
  | _ => none

end Rulebook.Pattern
