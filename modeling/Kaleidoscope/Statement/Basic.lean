import Kaleidoscope.Expr.Basic

/-!
Statements: definitions, external declarations and bare expressions. A bare expression is the
body of a function without a name and parameters, so that what a statement gives is one of two
kinds of node.
-/

namespace Kaleidoscope

structure Prototype where
  location : Location
  name : String
  parameters : List String
  deriving DecidableEq

structure Function where
  prototype : Prototype
  body : Expr
  deriving BEq

inductive Node where
  | external (prototype : Prototype)
  | function (function : Function)
  deriving BEq

inductive Statement where
  | definition (function : Function)
  | external (prototype : Prototype)
  | expression (function : Function)

namespace Prototype

def anonymous (location : Location) : Prototype :=
  ⟨location, "", []⟩

def isAnonymous (p : Prototype) : Bool :=
  p.name.isEmpty

def chars (p : Prototype) : List Char :=
  p.name.toList ++ '(' :: [',', ' '].intercalate (p.parameters.map String.toList) ++ [')']

def display (p : Prototype) : String :=
  String.ofList p.chars

end Prototype

namespace Function

def location (f : Function) : Location :=
  f.prototype.location

/-- A function without a name is shown as its body alone. -/
def chars (f : Function) : List Char :=
  if f.prototype.isAnonymous then f.body.chars
  else "def ".toList ++ f.prototype.chars ++ ' ' :: f.body.chars

def display (f : Function) : String :=
  String.ofList f.chars

end Function

namespace Node

def location : Node → Location
  | external p => p.location
  | function f => f.location

def chars : Node → List Char
  | external p => "extern ".toList ++ p.chars
  | function f => f.chars

def display (n : Node) : String :=
  String.ofList n.chars

end Node

def Statement.node : Statement → Node
  | definition f => .function f
  | external p => .external p
  | expression f => .function f

end Kaleidoscope
