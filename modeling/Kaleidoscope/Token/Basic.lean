import Kaleidoscope.Text.Location
import Kaleidoscope.Number.Shortest

/-!
Tokens: what the grammar reads. A token has a kind and a place; the end of the input is a token
of its own, and a `Stream` is a sequence that it closes. `render` writes a sequence of tokens
back as text, one space between any two.
-/

namespace Kaleidoscope

inductive Token.Kind where
  | endOfInput
  | defWord
  | externWord
  | identifier (name : String)
  | number (value : Binary64)
  /-- Any other character stands for itself. -/
  | char (c : Char)
  deriving BEq

structure Token where
  kind : Token.Kind
  location : Location
  deriving BEq

namespace Token

namespace Kind

def isEnd : Kind → Bool
  | endOfInput => true
  | _ => false

@[simp] theorem isEnd_iff {k : Kind} : k.isEnd = true ↔ k = endOfInput := by
  cases k <;> simp [isEnd]

@[simp] theorem isEnd_eq_false_iff {k : Kind} : k.isEnd = false ↔ k ≠ endOfInput := by
  cases k <;> simp [isEnd]

/-- The words that the grammar keeps for itself are not names. -/
def ofWord (word : List Char) : Kind :=
  if word = ['d', 'e', 'f'] then defWord
  else if word = ['e', 'x', 't', 'e', 'r', 'n'] then externWord
  else identifier (String.ofList word)

def chars : Kind → List Char
  | endOfInput => []
  | defWord => ['d', 'e', 'f']
  | externWord => ['e', 'x', 't', 'e', 'r', 'n']
  | identifier name => name.toList
  | number value => value.chars
  | char c => [c]

end Kind

/-- A sequence of tokens closed by an end of input, whose place is `finish`. Ends of input may
also stand within it. -/
structure Stream where
  body : List Token
  finish : Location

namespace Stream

def toList (s : Stream) : List Token :=
  s.body ++ [⟨.endOfInput, s.finish⟩]

/-- The sequence as a stream, if an end of input closes it. -/
def ofList? (tokens : List Token) : Option Stream :=
  match tokens.getLast? with
  | some ⟨.endOfInput, finish⟩ => some ⟨tokens.dropLast, finish⟩
  | _ => none

def cons (t : Token) (s : Stream) : Stream :=
  { s with body := t :: s.body }

@[simp] theorem toList_cons (t : Token) (s : Stream) : (s.cons t).toList = t :: s.toList := rfl

@[simp] theorem ofList?_toList (s : Stream) : ofList? s.toList = some s := by
  simp [ofList?, toList]

theorem ofList?_eq_some_iff {tokens : List Token} {s : Stream} :
    ofList? tokens = some s ↔ tokens = s.toList := by
  constructor
  · intro h
    unfold ofList? at h
    split at h
    · rename_i finish hl
      obtain ⟨body, rfl⟩ := List.getLast?_eq_some_iff.1 hl
      simp only [Option.some.injEq, List.dropLast_concat] at h
      rw [← h]
      rfl
    · contradiction
  · rintro rfl
    simp

end Stream

/-- The token sequence as text, without its ends of input. -/
def render (tokens : List Token) : List Char :=
  [' '].intercalate ((tokens.filter (!·.kind.isEnd)).map (·.kind.chars))

end Token

end Kaleidoscope
