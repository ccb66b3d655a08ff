/-!
Where a character or a token stands in a text. Lines and columns are counted from one, and a
column counts characters. The main law is `after_append`: a location reached by reading two
stretches of text is reached by reading them one after the other.
-/

namespace Kaleidoscope

structure Location where
  source : String
  line : Nat
  column : Nat
  deriving DecidableEq

namespace Location

/-- The place of the first character of a text. -/
def start (source : String) : Location :=
  ⟨source, 1, 1⟩

/-- The place after a character: a newline opens the next line, any other character takes one
column. -/
def step (l : Location) (c : Char) : Location :=
  if c = '\n' then { l with line := l.line + 1, column := 1 }
  else { l with column := l.column + 1 }

/-- The place after a stretch of text. -/
def after (l : Location) (text : List Char) : Location :=
  text.foldl step l

@[simp] theorem after_nil (l : Location) : l.after [] = l := rfl

@[simp] theorem after_cons (l : Location) (c : Char) (text : List Char) :
    l.after (c :: text) = (l.step c).after text := rfl

theorem after_append (l : Location) (s t : List Char) :
    l.after (s ++ t) = (l.after s).after t := by
  simp [after]

@[simp] theorem source_step (l : Location) (c : Char) : (l.step c).source = l.source := by
  unfold step
  split <;> rfl

@[simp] theorem source_after (l : Location) (text : List Char) :
    (l.after text).source = l.source := by
  induction text generalizing l with
  | nil => rfl
  | cons c text ih => simp [ih]

def display (l : Location) : String :=
  l.source ++ ":" ++ toString l.line ++ ":" ++ toString l.column

end Location

end Kaleidoscope
