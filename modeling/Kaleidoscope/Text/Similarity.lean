/-!
How alike two words are, from 0 to 1. Letters agree if they are equal and stand near one
another; each letter of the first word takes the first letter of the second that it can agree
with and that is still free. Agreeing letters that come out of order count for less, and a
common beginning counts for more.
-/

namespace Kaleidoscope.Similarity

/-- What the letters read so far agree with. -/
structure Agreement where
  /-- The letters of the second word, less those that are taken. -/
  free : List (Option Char)
  taken : Nat
  /-- How many letters were taken to the left of the one taken just before. -/
  outOfOrder : Nat
  latest : Nat

/-- The letter at a place of the first word takes one of the second within reach. -/
def Agreement.take (reach : Nat) (a : Agreement) (letter : Char × Nat) : Agreement :=
  let (c, i) := letter
  match a.free.zipIdx.find? fun (d, j) => d = some c && i ≤ j + reach && j ≤ i + reach with
  | none => a
  | some (_, j) =>
    ⟨a.free.set j none, a.taken + 1, if j < a.latest then a.outOfOrder + 1 else a.outOfOrder, j⟩

/-- Letters can agree if they are less than half of the longer word apart. -/
def reach (a b : List Char) : Nat :=
  (if a.length < b.length then b.length else a.length) / 2 - 1

def agreement (a b : List Char) : Agreement :=
  a.zipIdx.foldl (Agreement.take (reach a b)) ⟨b.map some, 0, 0, 0⟩

/-- A fraction that need not be in lowest terms. -/
structure Fraction where
  numerator : Nat
  denominator : Nat

def Fraction.le (x y : Fraction) : Bool :=
  x.numerator * y.denominator ≤ y.numerator * x.denominator

/-- The mean of three shares: of the letters of either word those that agree, and of the letters
that agree those in order. -/
def agreeing (a b : List Char) : Fraction :=
  let s := agreement a b
  if a.isEmpty && b.isEmpty then ⟨1, 1⟩
  else if s.taken = 0 then ⟨0, 1⟩
  else
    ⟨s.taken * s.taken * (a.length + b.length) +
      (s.taken - s.outOfOrder) * a.length * b.length, 3 * s.taken * a.length * b.length⟩

def commonBeginning : List Char → List Char → Nat
  | a :: as, b :: bs => if a = b then commonBeginning as bs + 1 else 0
  | _, _ => 0

/-- Each letter of a common beginning makes up for a tenth of what the words lack, but no more
than all of it. -/
def similarity (a b : List Char) : Fraction :=
  let x := agreeing a b
  let start := commonBeginning a b
  if 10 < start then ⟨1, 1⟩
  else ⟨10 * x.numerator + start * (x.denominator - x.numerator), 10 * x.denominator⟩

/-- Of some things, the one with the name most like a word, if it is very like; of equals the
first. -/
def closest? {α : Type} (name : α → List Char) (word : List Char) : List α → Option α
  | [] => none
  | x :: rest =>
    let likeness := similarity word (name x)
    match closest? name word rest with
    | none => if likeness.le ⟨4, 5⟩ then none else some x
    | some y => if (similarity word (name y)).le likeness then some x else some y

end Kaleidoscope.Similarity
