/-!
# UTF-8

The bytes of characters, and the sequences of ranges of bytes that make up a
range of characters.
-/

namespace Rulebook.Utf8

/-- The ranges of code points by the number of bytes that their characters take,
without those that are no characters. -/
def widths : List (Nat × Nat) :=
  [(0, 0x7F), (0x80, 0x7FF), (0x800, 0xD7FF), (0xE000, 0xFFFF), (0x10000, 0x10FFFF)]

/-- The bytes of a character. -/
def bytes (n : Nat) : List Nat :=
  let tail (shift : Nat) : Nat := 0x80 + n / shift % 64
  if n < 0x80 then [n]
  else if n < 0x800 then [0xC0 + n / 64, tail 1]
  else if n < 0x10000 then [0xE0 + n / 4096, tail 64, tail 1]
  else [0xF0 + n / 262144, tail 4096, tail 64, tail 1]

/-- Cuts a range that goes over several blocks of one size where the first and
the last block are not covered whole. -/
def cut (size : Nat) (r : Nat × Nat) : List (Nat × Nat) :=
  let (low, high) := r
  if low / size = high / size then [r]
  else
    let first := (low + size - 1) / size * size
    let last := (high + 1) / size * size
    [(low, first), (first, last), (last, high + 1)].filterMap fun (start, stop) =>
      if start < stop then some (start, stop - 1) else none

/-- The sequences of ranges of bytes that make up a range of characters. -/
def sequences (r : Nat × Nat) : List (List (Nat × Nat)) :=
  widths.flatMap fun width =>
    let low := max r.1 width.1
    let high := min r.2 width.2
    if high < low then []
    else if high < 0x80 then [[(low, high)]]
    else
      let pieces := ((cut 64 (low, high)).flatMap (cut 4096)).flatMap (cut 262144)
      pieces.map fun piece => (bytes piece.1).zip (bytes piece.2)

end Rulebook.Utf8
