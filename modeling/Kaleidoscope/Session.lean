import Kaleidoscope.Program

/-!
Sessions: operations on one cursor in any order, whether they succeed or fail. A reading that
fails leaves the cursor on the offending token, and the next operation goes on from there. Places
can be kept on a stack and returned to.
-/

namespace Kaleidoscope

inductive Operation where
  | current
  | next
  | precedence
  | save
  | restore
  | expression
  | prototype
  | definition
  | external
  | bare
  | item

/-- What an operation answers. -/
inductive Reply where
  | token (t : Token)
  | precedence (p : Option Nat)
  /-- How many places are kept afterwards, or nothing if there was none to return to. -/
  | kept (n : Option Nat)
  | expression (e : Expr)
  | prototype (p : Prototype)
  | function (f : Function)
  | item (i : Item)
  | fault (d : Diagnostic GrammarFault)

structure Session where
  cursor : Cursor
  saved : List Cursor

namespace Session

def start (s : Token.Stream) : Session :=
  ⟨.start s, []⟩

/-- Go on from where a reading ended. -/
def goOn {α : Type} (s : Session) (reply : α → Reply) : Outcome α → Reply × Session
  | .error f => (.fault f.diagnostic, { s with cursor := f.cursor })
  | .ok (a, c) => (reply a, { s with cursor := c })

def perform (limit : Option Nat) (s : Session) : Operation → Reply × Session
  | .current => (.token s.cursor.current, s)
  | .next => (.token s.cursor.current, { s with cursor := s.cursor.next })
  | .precedence => (.precedence (s.cursor.kind.operator?.map (·.2)), s)
  | .save => (.kept (some (s.saved.length + 1)), { s with saved := s.cursor :: s.saved })
  | .restore =>
    match s.saved with
    | [] => (.kept none, s)
    | c :: saved => (.kept (some saved.length), ⟨c, saved⟩)
  | .expression => s.goOn .expression (s.cursor.readExpression limit)
  | .prototype => s.goOn .prototype s.cursor.readPrototype
  | .definition => s.goOn .function (s.cursor.readDefinition limit)
  | .external => s.goOn .prototype s.cursor.readExtern
  | .bare => s.goOn .function (s.cursor.readBare limit)
  | .item => s.goOn .item (s.cursor.readItem limit)

/-- The answers of a sequence of operations, each with the session after it. -/
def performAll (limit : Option Nat) (s : Session) : List Operation → List (Reply × Session)
  | [] => []
  | o :: rest => s.perform limit o :: performAll limit (s.perform limit o).2 rest

end Session

end Kaleidoscope
