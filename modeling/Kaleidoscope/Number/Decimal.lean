/-!
Non-negative decimal fractions and their text: digits with at most one point. Reading takes
every such text that holds a digit, so the point may come first or last. Writing is positional,
never with an exponent, and drops the zeros that end the fraction, and with them the point.
-/

namespace Kaleidoscope

/-- The number `digits / 10 ^ places`. -/
structure Decimal where
  digits : Nat
  places : Nat
  deriving DecidableEq

namespace Decimal

/-- The number whose decimal digits are given, the most significant first. -/
def value (digits : List Char) : Nat :=
  Nat.ofDigitChars 10 digits 0

/-- The number that a numeral names, if it has a digit and no second point. -/
def ofChars? (text : List Char) : Option Decimal :=
  let whole := text.takeWhile Char.isDigit
  match text.dropWhile Char.isDigit with
  | [] => if whole.isEmpty then none else some ⟨value whole, 0⟩
  | point :: fraction =>
    if point = '.' && fraction.all Char.isDigit && !(whole ++ fraction).isEmpty then
      some ⟨value (whole ++ fraction), fraction.length⟩
    else none

def dropEndingZeros (digits : List Char) : List Char :=
  (digits.reverse.dropWhile (· = '0')).reverse

/-- The digits after the point, without ending zeros. -/
def fraction (d : Decimal) : List Char :=
  dropEndingZeros ((Nat.toDigits 10 (d.digits % Nat.pow 10 d.places)).leftpad d.places '0')

def chars (d : Decimal) : List Char :=
  Nat.toDigits 10 (d.digits / Nat.pow 10 d.places) ++
    if d.fraction.isEmpty then [] else '.' :: d.fraction

end Decimal

end Kaleidoscope
