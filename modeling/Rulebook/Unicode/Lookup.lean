import Rulebook.CharSet
import Rulebook.Unicode.Age
import Rulebook.Unicode.Break
import Rulebook.Unicode.Category
import Rulebook.Unicode.Fold
import Rulebook.Unicode.Property
import Rulebook.Unicode.Script
import Rulebook.Unicode.ScriptExtension

/-!
# Character sets by name

The sets of characters that patterns can name: general categories, scripts,
binary properties, ages and segmentation classes.  Case, spaces, hyphens and
underscores in a name do not count, and neither does `is` in front of it.
-/

namespace Rulebook.Unicode

/-- A name in the form in which names are compared. -/
def normalize (name : String) : String :=
  let plain (cs : List Char) : List Char :=
    (cs.filter fun c => c.toNat < 0x80 && c != ' ' && c != '_' && c != '-').map Char.toLower
  match name.toList with
  | a :: b :: rest =>
      if a.toLower = 'i' && b.toLower = 's' then
        if plain rest = ['c'] then "isc" else String.ofList (plain rest)
      else String.ofList (plain (a :: b :: rest))
  | cs => String.ofList (plain cs)

/-- The ranges that a table has under a name. -/
def tableRanges? (table : List (List String × List String)) (name : String) :
    Option (List (Nat × Nat)) :=
  (table.find? fun entry => entry.1.contains name).map fun entry => decodeRanges entry.2

/-- The set that a table has under a name. -/
def tableSet? (table : List (List String × List String)) (name : String) : Option CharSet :=
  (tableRanges? table name).map .ranges

/-- The set of all characters in the ranges listed. -/
def setOf (lists : List (List (Nat × Nat))) : CharSet :=
  .ranges (CharSet.joinRanges lists.flatten)

/-- The characters in the categories with these short names. -/
def inCategories (names : List String) : List (Nat × Nat) :=
  (names.filterMap (tableRanges? categories)).flatten

/-- The union of the categories with these short names. -/
def categoryUnion (names : List String) : CharSet :=
  setOf [inCategories names]

/-- All characters that have a category. -/
def assigned : CharSet :=
  categoryUnion (categories.filterMap fun entry => entry.1.head?)

/-- The categories that others make up, under all their names. -/
def categoryGroups : List (List String × List String) := [
  (["l", "letter"], ["lu", "ll", "lt", "lm", "lo"]),
  (["lc", "casedletter"], ["lu", "ll", "lt"]),
  (["m", "mark", "combiningmark"], ["mn", "mc", "me"]),
  (["n", "number"], ["nd", "nl", "no"]),
  (["p", "punctuation", "punct"], ["pc", "pd", "ps", "pe", "pi", "pf", "po"]),
  (["s", "symbol"], ["sm", "sc", "sk", "so"]),
  (["z", "separator"], ["zs", "zl", "zp"])]

/-- A general category, or one of the sets that go by the same kind of name. -/
def category? (name : String) : Option CharSet :=
  if name = "any" then some .all
  else if name = "ascii" then some .ascii
  else if name = "assigned" then some assigned
  else if name = "cn" || name = "unassigned" then some (.compl assigned)
  else if name = "c" || name = "other" then
    some (.union (categoryUnion ["cc", "cf", "co"]) (.compl assigned))
  else
    match categoryGroups.find? fun group => group.1.contains name with
    | some group => some (categoryUnion group.2)
    | none => tableSet? categories name

/-- The characters of a script. -/
def script? (name : String) : Option CharSet :=
  tableSet? scripts name

/-- The characters that a version of the standard has: those that it added and
those of the versions before it. -/
def age? (version : String) : Option CharSet :=
  let earlier := ages.takeWhile fun entry => !entry.1.contains version
  (ages[earlier.length]?).map fun entry =>
    setOf ((earlier ++ [entry]).map fun entry => decodeRanges entry.2)

/-- The set that a name alone stands for. -/
def named? (name : String) : Option CharSet :=
  let name := normalize name
  let property :=
    if name = "cf" || name = "sc" || name = "lc" then none else tableSet? properties name
  property <|> category? name <|> script? name

/-- The set that a kind of property and a value of it stand for. -/
def valued? (kind value : String) : Option CharSet :=
  let value := normalize value
  match normalize kind with
  | "gc" | "generalcategory" => category? value
  | "sc" | "script" => script? value
  | "scx" | "scriptextensions" => tableSet? scriptExtensions value
  | "age" => age? value
  | "gcb" | "graphemeclusterbreak" => tableSet? graphemeBreaks value
  | "wb" | "wordbreak" => tableSet? wordBreaks value
  | "sb" | "sentencebreak" => tableSet? sentenceBreaks value
  | _ => none

/-- The decimal digits. -/
def digit : CharSet := categoryUnion ["nd"]

/-- The characters with a binary property. -/
def property (name : String) : List (Nat × Nat) := (tableRanges? properties name).getD []

/-- The characters with the property `White_Space`. -/
def space : CharSet := setOf [property "whitespace"]

/-- The characters of words. -/
def word : CharSet :=
  setOf [property "alphabetic", property "joincontrol", inCategories ["mn", "mc", "me", "nd", "pc"]]

/-- The classes of characters that differ in case only. -/
def foldClasses : List (List Nat) := decodeClasses foldCode

end Rulebook.Unicode
