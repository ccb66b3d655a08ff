import Kaleidoscope.Text.CharSet

/-!
Patterns, which are regular expressions with preferences: of two alternatives the first is
preferred, and a repetition prefers to go on or to stop. A search reads a text once, from left to
right, and keeps what is still to be matched, the most preferred first; matches that begin further
left are preferred to all others. As soon as a match is complete, all that is less preferred is
given up.
-/

namespace Kaleidoscope

/-- A place between two characters. -/
inductive Anchor where
  | textStart
  | textEnd
  | lineStart
  | lineEnd
  /-- The start of a line where lines also end with a carriage return, alone or before a
  newline. -/
  | anyLineStart
  | anyLineEnd
  /-- The boundaries of words, which consist of English letters, digits and underscores. -/
  | wordBoundary
  | noWordBoundary
  | wordStart
  | wordEnd
  deriving DecidableEq

def isAsciiWordPart (c : Char) : Bool :=
  c.isAlphanum || c = '_'

namespace Anchor

/-- Whether an anchor holds between two characters. -/
def holds (before after : Option Char) (a : Anchor) : Bool :=
  let wordBefore := before.any isAsciiWordPart
  let wordAfter := after.any isAsciiWordPart
  match a with
  | textStart => before.isNone
  | textEnd => after.isNone
  | lineStart => before.all (· = '\n')
  | lineEnd => after.all (· = '\n')
  | anyLineStart => before.all (· = '\n') || (before = some '\r' && after ≠ some '\n')
  | anyLineEnd => after.all (· = '\r') || (after = some '\n' && before ≠ some '\r')
  | wordBoundary => wordBefore != wordAfter
  | noWordBoundary => wordBefore == wordAfter
  | wordStart => !wordBefore && wordAfter
  | wordEnd => wordBefore && !wordAfter

end Anchor

inductive Pattern where
  | empty
  | char (set : CharSet)
  | anchor (anchor : Anchor)
  | seq (p q : Pattern)
  /-- Either of two patterns, preferably the first. -/
  | alt (p q : Pattern)
  /-- Any number of repetitions, preferably many if it is greedy and few if not. -/
  | star (greedy : Bool) (p : Pattern)
  deriving DecidableEq

namespace Pattern

/-- How a match can begin: it is complete, or takes a character of a set and goes on. -/
inductive Head where
  | complete
  | char (set : CharSet) (rest : Pattern)
  deriving DecidableEq

def andThen : Pattern → Pattern → Pattern
  | empty, q => q
  | p, q => seq p q

/-- A head before another pattern that can begin in some ways. -/
def Head.before (q : Pattern) (heads : List Head) : Head → List Head
  | complete => heads
  | char set rest => [char set (rest.andThen q)]

/-- The ways in which a match can begin between two characters, the preferred ones first. A
repetition that takes nothing ends. -/
def heads (before after : Option Char) : Pattern → List Head
  | empty => [.complete]
  | char set => [.char set .empty]
  | anchor a => if a.holds before after then [.complete] else []
  | seq p q => (heads before after p).flatMap (Head.before q (heads before after q))
  | alt p q => (heads before after p ++ heads before after q).eraseDups
  | star greedy p =>
    let again := (heads before after p).flatMap (Head.before (star greedy p) [.complete])
    (if greedy then again ++ [.complete] else .complete :: again).eraseDups

/-- What is left to be matched once a character has been taken. -/
def Head.take? (c : Char) : Head → Option Pattern
  | complete => none
  | char set rest => if set.contains c then some rest else none

/-- Search a text for a pattern, behind a character and with matches under way, and say whether
the preferred match ends where the text does. No match begins any more once one was complete. -/
def search (p : Pattern) (before : Option Char) (underWay : List Pattern) (mayBegin : Bool) :
    List Char → Bool
  | [] =>
    let found := (underWay ++ if mayBegin then [p] else []).flatMap (heads before none)
    found.contains .complete
  | c :: rest =>
    let found := (underWay ++ if mayBegin then [p] else []).flatMap (heads before (some c))
    let preferred := found.takeWhile (· ≠ .complete)
    search p (some c) (preferred.filterMap (·.take? c)).eraseDups
      (mayBegin && !found.contains .complete) rest

/-- Without a match under way, and none that may begin, nothing is found. -/
theorem search_given_up (p : Pattern) (before : Option Char) (text : List Char) :
    search p before [] false text = false := by
  induction text generalizing before with
  | nil => rfl
  | cons c rest ih => exact ih (some c)

/-- Whether the match that is found in a text ends where the text does. -/
def holds (p : Pattern) (text : String) : Bool :=
  p.search none [] true text.toList

end Pattern

end Kaleidoscope
