import Rulebook.Number.Shortest
import Rulebook.Value.Basic

/-!
# Values as text

Pattern rules see a value as text: numbers without a needless point, the items
of an array joined by commas with `null` items left blank, files by their names,
and every object as the same text.
-/

namespace Rulebook.Value

mutual

/-- The text of a value. -/
def stringify : Value → String
  | null => "null"
  | bool b => if b then "true" else "false"
  | number n => n.text
  | string s => s
  | array items => ",".intercalate (itemTexts items)
  | object _ => "[object Object]"
  | file f => f.name
  | files fs => ",".intercalate (fs.map File.name)

/-- The texts of the items of an array, blank for `null`. -/
def itemTexts : List Value → List String
  | [] => []
  | null :: items => "" :: itemTexts items
  | item :: items => stringify item :: itemTexts items

end

end Rulebook.Value
