import Kaleidoscope.Number.Decimal

/-!
Numerals with signs and exponents, as far as it matters whether a text is one.
-/

namespace Kaleidoscope.Numeral

/-- The number that digits name, with or without a plus sign. -/
def natural? (text : List Char) : Option Nat :=
  let digits :=
    match text with
    | '+' :: rest => rest
    | _ => text
  if digits.isEmpty || !digits.all Char.isDigit then none else some (Decimal.value digits)

def unsigned : List Char → List Char
  | '+' :: rest => rest
  | '-' :: rest => rest
  | text => text

def isExponentMark (c : Char) : Bool :=
  c = 'e' || c = 'E'

/-- Whether nothing follows a fraction, or an exponent. -/
def endsFraction : List Char → Bool
  | [] => true
  | _ :: exponent => !(unsigned exponent).isEmpty && (unsigned exponent).all Char.isDigit

/-- Whether a text names a number, an infinity, or what is not a number. -/
def isNumeral (text : List Char) : Bool :=
  let body := unsigned text
  ["inf", "infinity", "nan"].contains (String.ofList body).toLower ||
    ((Decimal.ofChars? (body.takeWhile (!isExponentMark ·))).isSome &&
      endsFraction (body.dropWhile (!isExponentMark ·)))

end Kaleidoscope.Numeral
