/-!
# Blank characters

The characters with the Unicode property `White_Space`, and trimming by them.
The information separators U+001C to U+001F, the zero width space and the
byte order mark are not blank.
-/

namespace Rulebook.Text

/-- The Unicode property `White_Space`. -/
def isBlank (c : Char) : Bool :=
  let n := c.toNat
  (0x09 ≤ n && n ≤ 0x0D) || n == 0x20 || n == 0x85 || n == 0xA0 || n == 0x1680 ||
    (0x2000 ≤ n && n ≤ 0x200A) || n == 0x2028 || n == 0x2029 || n == 0x202F ||
    n == 0x205F || n == 0x3000

/-- Drops the blanks at the end. -/
def trimEnd (s : List Char) : List Char :=
  (s.reverse.dropWhile isBlank).reverse

/-- Drops the blanks at both ends and keeps those between. -/
def trimChars (s : List Char) : List Char :=
  trimEnd (s.dropWhile isBlank)

/-- `trimChars` on strings. -/
def trim (s : String) : String :=
  String.ofList (trimChars s.toList)

@[simp]
theorem toList_trim (s : String) : (trim s).toList = trimChars s.toList := by
  simp [trim]

@[simp]
theorem trimEnd_nil : trimEnd [] = [] :=
  rfl

@[simp]
theorem trimChars_nil : trimChars [] = [] :=
  rfl

end Rulebook.Text
