import Kaleidoscope.Text.Location
import Kaleidoscope.Number.Shortest

/-!
Expressions and their text. The text puts every application of an operator in parentheses, so
it shows the shape of the tree whatever the operators are. `write` produces the text in front
of another one, which makes it linear in its size.
-/

namespace Kaleidoscope

/-- A located expression. An application of an operator is located at the operator, any other
expression at its first token. -/
inductive Expr where
  | number (location : Location) (value : Binary64)
  | reference (location : Location) (name : String)
  | binary (location : Location) (op : Char) (left right : Expr)
  | call (location : Location) (callee : String) (arguments : List Expr)

namespace Expr

def location : Expr → Location
  | number location _ => location
  | reference location _ => location
  | binary location _ _ _ => location
  | call location _ _ => location

mutual

/-- The text of an expression followed by `rest`. -/
def write (rest : List Char) : Expr → List Char
  | number _ value => value.chars ++ rest
  | reference _ name => name.toList ++ rest
  | binary _ op left right =>
      '(' :: left.write (' ' :: op :: ' ' :: right.write (')' :: rest))
  | call _ callee [] => callee.toList ++ '(' :: ')' :: rest
  | call _ callee (first :: more) =>
      callee.toList ++ '(' :: first.write (writeMore (')' :: rest) more)

/-- The text of further arguments followed by `rest`. -/
def writeMore (rest : List Char) : List Expr → List Char
  | [] => rest
  | e :: more => ',' :: ' ' :: e.write (writeMore rest more)

end

def chars (e : Expr) : List Char :=
  e.write []

def display (e : Expr) : String :=
  String.ofList e.chars

mutual

/-- Equality of trees with their locations, in which numbers are equal as numbers. -/
def equal : Expr → Expr → Bool
  | number l v, number l' v' => l = l' && v == v'
  | reference l n, reference l' n' => l = l' && n = n'
  | binary l o a b, binary l' o' a' b' => l = l' && o = o' && equal a a' && equal b b'
  | call l f as, call l' f' as' => l = l' && f = f' && equalAll as as'
  | _, _ => false

def equalAll : List Expr → List Expr → Bool
  | [], [] => true
  | e :: es, e' :: es' => equal e e' && equalAll es es'
  | _, _ => false

end

instance : BEq Expr := ⟨equal⟩

end Expr

end Kaleidoscope
