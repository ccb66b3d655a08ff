/-!
Sets of characters, written as ranges of their numbers.
-/

namespace Kaleidoscope

/-- The first and the last number of each range. -/
abbrev Ranges := List (Nat × Nat)

def Ranges.contains (ranges : Ranges) (c : Char) : Bool :=
  ranges.any fun (first, last) => first ≤ c.toNat && c.toNat ≤ last

end Kaleidoscope
