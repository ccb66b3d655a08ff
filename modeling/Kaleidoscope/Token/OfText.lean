import Kaleidoscope.Diagnostic
import Kaleidoscope.Text.Lexeme
import Kaleidoscope.Text.Utf8
import Kaleidoscope.Token.Basic

/-!
The tokens of a text. The text is cut into lexemes, blanks and comments mean nothing, and each
other lexeme is one token at the place of its first character. The only fault inside a text is
a numeral that names no finite number, and the first such numeral is reported.
-/

namespace Kaleidoscope

/-- The kind of token that a lexeme stands for, if it stands for any. -/
def Lexeme.kind : Lexeme → Except LexicalFault (Option Token.Kind)
  | blank _ => .ok none
  | comment _ => .ok none
  | word text => .ok (some (.ofWord text))
  | numeral text =>
    match Binary64.ofNumeral? text with
    | some value => .ok (some (.number value))
    | none => .error .malformedNumber
  | mark c => .ok (some (.char c))

namespace Token

namespace Stream

/-- The tokens of a sequence of lexemes that starts at a location. -/
def ofLexemes (location : Location) : List Lexeme → Except (Diagnostic LexicalFault) Stream
  | [] => .ok ⟨[], location⟩
  | lexeme :: rest =>
    match lexeme.kind with
    | .error fault => .error ⟨location, fault⟩
    | .ok none => ofLexemes (location.after lexeme.text) rest
    | .ok (some kind) => (ofLexemes (location.after lexeme.text) rest).map (.cons ⟨kind, location⟩)

/-- The tokens of a text with a name. An empty text has none, not even its end. -/
def ofText (name : String) (text : List Char) : Except (Diagnostic LexicalFault) Stream :=
  if text.isEmpty then .error ⟨.start name, .emptyText⟩
  else ofLexemes (.start name) (Lexeme.cut text)

def ofBytes (name : String) (bytes : List UInt8) : Except (Diagnostic LexicalFault) Stream :=
  ofText name (Utf8.decode bytes)

end Stream

end Token

end Kaleidoscope
