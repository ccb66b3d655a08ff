import Kaleidoscope.Text.Alphanumeric
import Kaleidoscope.Text.LetterCase
import Kaleidoscope.Text.Whitespace

/-!
Sets of characters as patterns write them: ranges, classes, and what is made of these.
-/

namespace Kaleidoscope

inductive CharClass where
  | digit
  | space
  | word
  | category (category : Category)
  deriving DecidableEq

def CharClass.contains : CharClass → Char → Bool
  | digit => isDecimalDigit
  | space => isWhitespace
  | word => isWordPart
  | category k => (k.contains ·)

inductive CharSet where
  | ranges (ranges : Ranges)
  | cls (cls : CharClass)
  | complement (s : CharSet)
  | union (s t : CharSet)
  | inter (s t : CharSet)
  /-- The characters of a set in all their cases, or in those of English letters. -/
  | caseless (ascii : Bool) (s : CharSet)
  deriving DecidableEq

namespace CharSet

def contains : CharSet → Char → Bool
  | ranges rs, c => rs.contains c
  | cls k, c => k.contains c
  | complement s, c => !s.contains c
  | union s t, c => s.contains c || t.contains c
  | inter s t, c => s.contains c && t.contains c
  | caseless ascii s, c =>
    (if ascii then asciiCaseVariants c.toNat else caseVariants c.toNat).any fun n =>
      s.contains (Char.ofNat n)

def none : CharSet :=
  ranges []

def all : CharSet :=
  complement none

def singleton (c : Char) : CharSet :=
  ranges [(c.toNat, c.toNat)]

def diff (s t : CharSet) : CharSet :=
  inter s (complement t)

/-- What is in one of two sets but not in both. -/
def symmDiff (s t : CharSet) : CharSet :=
  union (diff s t) (diff t s)

theorem contains_none (c : Char) : none.contains c = false :=
  rfl

theorem contains_all (c : Char) : all.contains c = true :=
  rfl

theorem contains_diff (s t : CharSet) (c : Char) :
    (diff s t).contains c = (s.contains c && !t.contains c) :=
  rfl

end CharSet

end Kaleidoscope
