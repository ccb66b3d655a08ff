import Kaleidoscope.Number.Binary64

/-!
The text of a number: the fewest digits that read back as the same value, and of two such texts
of one length the nearer to the exact value. What is written is tested by reading it, and the
exact value stands at the end of the search, so every finite number reads back.
-/

namespace Kaleidoscope

namespace Decimal

/-- The two neighbours of a decimal whose last `j` digits are zeros. -/
def below (d : Decimal) (j : Nat) : Decimal :=
  ⟨d.digits / Nat.pow 10 j * Nat.pow 10 j, d.places⟩

def above (d : Decimal) (j : Nat) : Decimal :=
  ⟨(d.digits / Nat.pow 10 j + 1) * Nat.pow 10 j, d.places⟩

/-- Whether the neighbour below is strictly nearer. -/
def nearerBelow (d : Decimal) (j : Nat) : Bool :=
  2 * (d.digits % Nat.pow 10 j) < Nat.pow 10 j

/-- The neighbour with the most ending zeros, at most `j`, that is still good; of two good ones
the nearer, and the upper one at equal distance. Without a good neighbour the decimal itself. -/
def abbreviate (good : Decimal → Bool) (d : Decimal) : Nat → Decimal
  | 0 => d
  | j + 1 =>
    if good (d.below (j + 1)) && (d.nearerBelow (j + 1) || !good (d.above (j + 1))) then
      d.below (j + 1)
    else if good (d.above (j + 1)) then d.above (j + 1)
    else abbreviate good d j

/-- How many digits the number has when its point is dropped. -/
def width (d : Decimal) : Nat :=
  (Nat.toDigits 10 d.digits).length

end Decimal

namespace Binary64

/-- The shortest decimal that reads back as the absolute value of a finite number. -/
def shortest (x : Binary64) : Decimal :=
  let d := exact x.magnitude
  d.abbreviate (fun e => (ofDecimal e).magnitude = x.magnitude) d.width

def chars (x : Binary64) : List Char :=
  if x.isNaN then ['N', 'a', 'N']
  else
    (if x.negative then ['-'] else []) ++
      if x.isFinite then x.shortest.chars else ['i', 'n', 'f']

def display (x : Binary64) : String :=
  String.ofList x.chars

/-- The finite number that a numeral names: its exact value rounded once. -/
def ofNumeral? (text : List Char) : Option Binary64 :=
  ((Decimal.ofChars? text).map ofDecimal).filter isFinite

end Binary64

end Kaleidoscope
