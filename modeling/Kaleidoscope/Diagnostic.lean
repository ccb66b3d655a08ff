import Kaleidoscope.Text.Location

/-!
What can be wrong with a text, and where. A fault is kept as its cause; the sentence that
reports it is a function of the cause, and `Diagnostic.display` is the one form in which any
located cause is shown.
-/

namespace Kaleidoscope

/-- Causes that can be put into a sentence. -/
class Explained (κ : Type) where
  message : κ → String

export Explained (message)

/-- A cause already put into words explains itself. -/
instance : Explained String where
  message := id

/-- Why a text is no sequence of tokens. -/
inductive LexicalFault where
  | emptyText
  | malformedNumber
  deriving DecidableEq

instance : Explained LexicalFault where
  message
    | .emptyText => "unexpected end of file"
    | .malformedNumber => "invalid format of number"

/-- Why a sequence of tokens is no statement. -/
inductive GrammarFault where
  | expressionExpected
  | closingExpected
  | argumentEndExpected
  | nestingTooDeep
  | functionNameExpected
  | parametersExpected
  | parameterNameExpected
  | parameterEndExpected
  | defExpected
  | externExpected
  deriving DecidableEq

instance : Explained GrammarFault where
  message
    | .expressionExpected => "unknown token when expecting an expression"
    | .closingExpected => "expected ')'"
    | .argumentEndExpected => "expected ')' or ',' in argument list"
    | .nestingTooDeep => "expression nested too deeply"
    | .functionNameExpected => "expected function name in prototype"
    | .parametersExpected => "expected '(' in prototype"
    | .parameterNameExpected => "expected parameter name in prototype"
    | .parameterEndExpected => "expected ')' or ',' in prototype"
    | .defExpected => "expected 'def'"
    | .externExpected => "expected 'extern'"

structure Diagnostic (κ : Type) where
  location : Location
  cause : κ
  deriving DecidableEq

namespace Diagnostic

variable {κ : Type} [Explained κ]

def text (d : Diagnostic κ) : String :=
  message d.cause

def display (d : Diagnostic κ) : String :=
  d.location.display ++ ": " ++ d.text

end Diagnostic

end Kaleidoscope
