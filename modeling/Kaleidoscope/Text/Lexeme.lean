/-!
The cutting of a text into lexemes: single blanks, comments, words, numerals and single marks.
Nothing is lost (`flatten_cut`), and each lexeme is as long as its kind allows, since a word, a
numeral and a comment take everything of their kind that follows.
-/

namespace Kaleidoscope

/-- The six characters that only separate: space, tab, newline, vertical tab, form feed and
carriage return. Blanks outside ASCII are marks. -/
def isBlank (c : Char) : Bool :=
  c = ' ' || c = '\t' || c = '\n' || c = '\x0B' || c = '\x0C' || c = '\r'

/-- ASCII letters and the underscore. Digits end a word. -/
def isWordChar (c : Char) : Bool :=
  c.isAlpha || c = '_'

/-- ASCII digits and the point. -/
def isNumeralChar (c : Char) : Bool :=
  c.isDigit || c = '.'

def isNewline (c : Char) : Bool :=
  c = '\n'

inductive Lexeme where
  | blank (c : Char)
  /-- From the sign `#` to the end of the line; the text excludes both. -/
  | comment (text : List Char)
  | word (text : List Char)
  | numeral (text : List Char)
  | mark (c : Char)
  deriving DecidableEq

namespace Lexeme

/-- The characters that a lexeme was cut from. -/
def text : Lexeme → List Char
  | blank c => [c]
  | comment text => '#' :: text
  | word text => text
  | numeral text => text
  | mark c => [c]

theorem length_dropWhile_le (p : Char → Bool) (s : List Char) :
    (s.dropWhile p).length ≤ s.length :=
  (List.dropWhile_suffix p).length_le

/-- Cut a text into lexemes. -/
def cut : List Char → List Lexeme
  | [] => []
  | c :: rest =>
    if isBlank c then blank c :: cut rest
    else if isWordChar c then
      word (c :: rest.takeWhile isWordChar) :: cut (rest.dropWhile isWordChar)
    else if isNumeralChar c then
      numeral (c :: rest.takeWhile isNumeralChar) :: cut (rest.dropWhile isNumeralChar)
    else if c = '#' then
      comment (rest.takeWhile (!isNewline ·)) :: cut (rest.dropWhile (!isNewline ·))
    else mark c :: cut rest
termination_by s => s.length
decreasing_by
  · exact Nat.lt_succ_self _
  · exact Nat.lt_succ_of_le (length_dropWhile_le _ _)
  · exact Nat.lt_succ_of_le (length_dropWhile_le _ _)
  · exact Nat.lt_succ_of_le (length_dropWhile_le _ _)
  · exact Nat.lt_succ_self _

theorem flatten_cut (s : List Char) : (cut s).flatMap text = s := by
  fun_induction cut s with
  | case1 => rfl
  | case2 c rest _ ih => simp [text, ih]
  | case3 c rest _ _ ih => simp [text, ih]
  | case4 c rest _ _ _ ih => simp [text, ih]
  | case5 rest _ _ _ ih => simp [text, ih]
  | case6 c rest _ _ _ _ ih => simp [text, ih]

end Lexeme

end Kaleidoscope
