import Rulebook.Number.Basic

/-!
# Decimal numerals

A numeral is a number as it is written: a sign, the digits before and after the
point and a power of ten.  `Numeral.text` writes it.  `Number.ofText?` reads
the numerals of rule arguments, which also allow a plus sign, digits on one
side of the point only, and the words for infinity and `nan` in any case.
-/

namespace Rulebook

/-- The digits of a number in base ten. -/
def decimalDigits (n : Nat) : List Char :=
  Nat.toDigits 10 n

/-- The value of a list of decimal digits. -/
def digitsValue (digits : List Char) : Nat :=
  Nat.ofDigitChars 10 digits 0

/-- A number as it is written in decimal notation. -/
structure Numeral where
  negative : Bool
  /-- The digits before the point. -/
  whole : List Char
  /-- The digits after the point; without digits there is no point. -/
  fraction : List Char
  /-- The power of ten; the power zero is not written. -/
  exponent : Int
deriving DecidableEq, Inhabited

namespace Numeral

/-- A natural number written in full. -/
def ofNat (n : Nat) : Numeral :=
  ⟨false, decimalDigits n, [], 0⟩

/-- The digits on both sides of the point, as one number. -/
def digits (n : Numeral) : Nat :=
  digitsValue (n.whole ++ n.fraction)

/-- The power of ten that scales `digits`. -/
def scale (n : Numeral) : Int :=
  n.exponent - n.fraction.length

/-- The number nearest to what is written. -/
def nearest (n : Numeral) : Number :=
  .signed n.negative (.ofDecimal n.digits n.scale)

/-- The natural number that is written without a sign, point or power. -/
def toNat? (n : Numeral) : Option Nat :=
  if !n.negative && n.fraction.isEmpty && n.exponent = 0 then some (digitsValue n.whole) else none

/-- Writes the power of ten, its sign always included. -/
def exponentText (exponent : Int) : List Char :=
  if exponent = 0 then []
  else 'e' :: (if exponent < 0 then '-' else '+') :: decimalDigits exponent.natAbs

/-- Writes a numeral. -/
def text (n : Numeral) : List Char :=
  (if n.negative then ['-'] else []) ++ n.whole ++
    (if n.fraction.isEmpty then [] else '.' :: n.fraction) ++ exponentText n.exponent

end Numeral

/-- Reads a sign, and says whether it is a minus. -/
def readSign : List Char → Bool × List Char
  | '-' :: rest => (true, rest)
  | '+' :: rest => (false, rest)
  | rest => (false, rest)

/-- Reads the power of ten that ends a numeral, if there is one. -/
def readExponent? (s : List Char) : Option (Int × List Char) :=
  match s with
  | c :: rest =>
      if c = 'e' || c = 'E' then
        let (negative, digits) := readSign rest
        let power := digits.takeWhile Char.isDigit
        if power.isEmpty then none
        else
          let value : Int := digitsValue power
          some (if negative then -value else value, digits.dropWhile Char.isDigit)
      else some (0, s)
  | [] => some (0, [])

/-- Reads the digits after a point, if there is one. -/
def readFraction (s : List Char) : List Char × List Char :=
  match s with
  | '.' :: rest => (rest.takeWhile Char.isDigit, rest.dropWhile Char.isDigit)
  | _ => ([], s)

namespace Number

/-- Reads an unsigned numeral that has a digit on at least one side of its
point. -/
def ofDigits? (negative : Bool) (s : List Char) : Option Number :=
  let whole := s.takeWhile Char.isDigit
  let (fraction, rest) := readFraction (s.dropWhile Char.isDigit)
  if whole.isEmpty && fraction.isEmpty then none
  else
    match readExponent? rest with
    | some (exponent, []) => some (Numeral.nearest ⟨negative, whole, fraction, exponent⟩)
    | _ => none

/-- Reads the words for the numbers that have no digits, in any case. -/
def ofWord? (negative : Bool) (s : List Char) : Option Number :=
  let word := String.ofList (s.map Char.toLower)
  if word = "inf" || word = "infinity" then some (signed negative .infinity)
  else if word = "nan" then some nan
  else none

/-- Reads a numeral or a word as a number. -/
def ofChars? (s : List Char) : Option Number :=
  let (negative, rest) := readSign s
  match ofWord? negative rest with
  | some n => some n
  | none => ofDigits? negative rest

/-- `ofChars?` on strings.  Blanks are not skipped. -/
def ofText? (s : String) : Option Number :=
  ofChars? s.toList

end Number

end Rulebook
