/-!
# Patterns

A pattern is a regular expression as it is written.  This is its tree, before
flags are taken into account and before classes become sets of characters.
-/

namespace Rulebook

/-- A character that a pattern spells out. -/
structure PatternChar where
  char : Char
  /-- Whether it is written as two hexadecimal digits, which name a byte where
  the pattern is not about Unicode text. -/
  isByte : Bool
deriving DecidableEq, Inhabited

/-- The classes with an escape of one letter. -/
inductive LetterClass where
  | digit
  | space
  | word
deriving DecidableEq, Inhabited

/-- A property of characters by its name, or by its kind and its value. -/
inductive PropertyName where
  | named (name : String)
  | valued (kind value : String)
deriving DecidableEq, Inhabited

/-- The operations on the classes in a bracket. -/
inductive ClassOp where
  | intersection
  | difference
  | symmetricDifference
deriving DecidableEq, Inhabited

mutual

/-- An item of a bracket. -/
inductive ClassItem where
  | char (c : PatternChar)
  | range (low high : PatternChar)
  | ascii (name : String) (negated : Bool)
  | letter (cls : LetterClass) (negated : Bool)
  | property (name : PropertyName) (negated : Bool)
  | bracket (negated : Bool) (body : ClassBody)

/-- What stands in a bracket. -/
inductive ClassBody where
  | items (list : List ClassItem)
  | op (kind : ClassOp) (left right : ClassBody)

end

instance : Inhabited ClassBody := ⟨.items []⟩
instance : Inhabited ClassItem := ⟨.bracket false default⟩

/-- The conditions that a pattern can ask for. -/
inductive Anchor where
  | caret
  | dollar
  | textStart
  | textEnd
  | boundary
  | notBoundary
  | wordStart
  | wordEnd
  | wordStartHalf
  | wordEndHalf
deriving DecidableEq, Inhabited

/-- Flags that are turned on or off. -/
abbrev FlagChanges := List (Char × Bool)

/-- The tree of a pattern. -/
inductive Pattern where
  | empty
  | char (c : PatternChar)
  | dot
  | anchor (a : Anchor)
  | letter (cls : LetterClass) (negated : Bool)
  | property (name : PropertyName) (negated : Bool)
  | bracket (negated : Bool) (body : ClassBody)
  /-- Flags for the rest of the group. -/
  | flags (changes : FlagChanges)
  /-- A group with flags of its own. -/
  | group (changes : FlagChanges) (body : Pattern)
  /-- A group whose match is kept, under a name or without one. -/
  | capture (name : Option String) (body : Pattern)
  | repeated (body : Pattern) (least : Nat) (most : Option Nat)
  | alt (branches : List Pattern)
  | seq (parts : List Pattern)
deriving Inhabited

mutual

/-- How deep an item of a bracket nests. -/
def ClassItem.depth : ClassItem → Nat
  | .bracket _ body => body.depth + 1
  | _ => 0

/-- How deep the inside of a bracket nests.  Several items count as a level. -/
def ClassBody.depth : ClassBody → Nat
  | .items [] => 0
  | .items [item] => item.depth
  | .items (item :: items) => max item.depth (ClassBody.depthOfItems items) + 1
  | .op _ left right => max left.depth right.depth + 1

/-- The deepest nesting of a list of items. -/
def ClassBody.depthOfItems : List ClassItem → Nat
  | [] => 0
  | item :: items => max item.depth (ClassBody.depthOfItems items)

end

namespace Pattern

/-- Parts one after the other; one part stands for itself. -/
def ofParts : List Pattern → Pattern
  | [] => empty
  | [part] => part
  | parts => seq parts

/-- Branches to choose from; one branch stands for itself. -/
def ofBranches : List Pattern → Pattern
  | [branch] => branch
  | branches => alt branches

mutual

/-- How deep a pattern nests. -/
def depth : Pattern → Nat
  | bracket _ body => body.depth + 1
  | group _ body => depth body + 1
  | capture _ body => depth body + 1
  | repeated body _ _ => depth body + 1
  | alt branches => depthOfList branches + 1
  | seq parts => depthOfList parts + 1
  | _ => 0

/-- The deepest nesting of a list of patterns. -/
def depthOfList : List Pattern → Nat
  | [] => 0
  | p :: ps => max (depth p) (depthOfList ps)

end

mutual

/-- The names that a pattern gives to its groups. -/
def groupNames : Pattern → List String
  | group _ body => groupNames body
  | capture name body => name.toList ++ groupNames body
  | repeated body _ _ => groupNames body
  | alt branches => groupNamesOfList branches
  | seq parts => groupNamesOfList parts
  | _ => []

/-- The names that a list of patterns gives to groups. -/
def groupNamesOfList : List Pattern → List String
  | [] => []
  | p :: ps => groupNames p ++ groupNamesOfList ps

end

end Pattern

end Rulebook
