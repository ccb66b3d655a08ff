import Kaleidoscope.Number.Decimal

/-!
Binary floating point of 64 bits: a sign and 63 bits that grow with the absolute value, eleven
of exponent above 52 of fraction. A finite magnitude stands for a whole number of units of
`2 ^ -1074` (`units`), so that rounding a decimal to the nearest value, a half to the even
neighbour, is division of natural numbers (`ofDecimal`).
-/

namespace Kaleidoscope

structure Binary64 where
  negative : Bool
  magnitude : Nat
  magnitude_lt : magnitude < Nat.pow 2 63
  deriving DecidableEq

namespace Binary64

/-- The magnitude of the infinities; those above it are not numbers. -/
def infinity : Nat := 2047 * Nat.pow 2 52

theorem infinity_lt : infinity < Nat.pow 2 63 := by decide

def isFinite (x : Binary64) : Bool :=
  x.magnitude < infinity

def isNaN (x : Binary64) : Bool :=
  infinity < x.magnitude

/-- The value of a pattern of 64 bits, the sign being the highest. -/
def ofBits (bits : Nat) : Binary64 :=
  ⟨bits / Nat.pow 2 63 % 2 = 1, bits % Nat.pow 2 63, Nat.mod_lt _ (by decide)⟩

def bits (x : Binary64) : Nat :=
  (if x.negative then Nat.pow 2 63 else 0) + x.magnitude

/-- Equality as numbers: one that is not a number equals nothing, and the two zeros are equal. -/
instance : BEq Binary64 where
  beq x y :=
    !x.isNaN && !y.isNaN && x.magnitude == y.magnitude &&
      (x.negative == y.negative || x.magnitude == 0)

/-- The exponent field counts doublings from the first normal value, and the subnormal ones
share the spacing of that value. -/
def scale (magnitude : Nat) : Nat :=
  magnitude / Nat.pow 2 52 - 1

/-- The digits before scaling: a normal value has a leading bit that is not written. -/
def significand (magnitude : Nat) : Nat :=
  if magnitude < Nat.pow 2 52 then magnitude else Nat.pow 2 52 + magnitude % Nat.pow 2 52

/-- The absolute value of a finite magnitude, in units of `2 ^ -1074`. -/
def units (magnitude : Nat) : Nat :=
  significand magnitude * Nat.pow 2 (scale magnitude)

/-- A quotient rounded to the nearest whole number, a half to the even one. -/
def roundQuotient (n d : Nat) : Nat :=
  if 2 * (n % d) < d then n / d
  else if d < 2 * (n % d) then n / d + 1
  else n / d + n / d % 2

/-- The magnitude nearest to `n / d` units. With the least spacing `2 ^ s` at which the
quotient keeps at most 53 bits, the rounded quotient itself supplies the leading bit that turns
`s` into the exponent field, also when rounding carries into the next power of two. -/
def nearestMagnitude (n d : Nat) : Nat :=
  let s := (n / d).log2 - 52
  min (s * Nat.pow 2 52 + roundQuotient n (d * Nat.pow 2 s)) infinity

theorem nearestMagnitude_lt (n d : Nat) : nearestMagnitude n d < Nat.pow 2 63 :=
  Nat.lt_of_le_of_lt (Nat.min_le_right _ _) infinity_lt

/-- The value nearest to a decimal, which is infinite from `2 ^ 1024 - 2 ^ 970` on. -/
def ofDecimal (d : Decimal) : Binary64 :=
  ⟨false, nearestMagnitude (d.digits * Nat.pow 2 1074) (Nat.pow 10 d.places),
    nearestMagnitude_lt _ _⟩

/-- The exact absolute value of a finite magnitude: halves are fives in the next decimal
place. -/
def exact (magnitude : Nat) : Decimal :=
  let s := scale magnitude
  if 1074 ≤ s then ⟨significand magnitude * Nat.pow 2 (s - 1074), 0⟩
  else ⟨significand magnitude * Nat.pow 5 (1074 - s), 1074 - s⟩

end Binary64

end Kaleidoscope
