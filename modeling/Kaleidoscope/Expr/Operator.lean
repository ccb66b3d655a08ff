import Kaleidoscope.Token.Basic

/-!
The binary operators and how strongly they bind.
-/

namespace Kaleidoscope

/-- Comparison binds loosest, multiplication tightest. -/
def precedence? (op : Char) : Option Nat :=
  if op = '<' then some 10
  else if op = '+' || op = '-' then some 20
  else if op = '*' then some 40
  else none

namespace Token.Kind

/-- The operator that a token spells, with its precedence. -/
def operator? : Kind → Option (Char × Nat)
  | char c => (precedence? c).map (c, ·)
  | _ => none

/-- Whether a token is an operator that binds tighter than a precedence. -/
def bindsTighter (p : Nat) (k : Kind) : Bool :=
  k.operator?.any (p < ·.2)

end Token.Kind

end Kaleidoscope
