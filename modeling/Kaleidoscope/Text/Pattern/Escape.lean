import Kaleidoscope.Text.Pattern.Basic
import Kaleidoscope.Text.Pattern.Flags

/-!
What a backslash introduces in a pattern: a character that has a name or a number or would
otherwise mean something else, a class of characters, or an anchor.
-/

namespace Kaleidoscope.Pattern

/-- The English classes that have a name. -/
def namedRanges? (name : List Char) : Option Ranges :=
  match String.ofList name with
  | "alnum" => some [(0x30, 0x39), (0x41, 0x5A), (0x61, 0x7A)]
  | "alpha" => some [(0x41, 0x5A), (0x61, 0x7A)]
  | "ascii" => some [(0x0, 0x7F)]
  | "blank" => some [(0x9, 0x9), (0x20, 0x20)]
  | "cntrl" => some [(0x0, 0x1F), (0x7F, 0x7F)]
  | "digit" => some [(0x30, 0x39)]
  | "graph" => some [(0x21, 0x7E)]
  | "lower" => some [(0x61, 0x7A)]
  | "print" => some [(0x20, 0x7E)]
  | "punct" => some [(0x21, 0x2F), (0x3A, 0x40), (0x5B, 0x60), (0x7B, 0x7E)]
  | "space" => some [(0x9, 0xD), (0x20, 0x20)]
  | "upper" => some [(0x41, 0x5A)]
  | "word" => some [(0x30, 0x39), (0x41, 0x5A), (0x5F, 0x5F), (0x61, 0x7A)]
  | "xdigit" => some [(0x30, 0x39), (0x41, 0x46), (0x61, 0x66)]
  | _ => none

def category? : Char → Option Category
  | 'l' => some .letter
  | 'm' => some .mark
  | 'n' => some .number
  | 'p' => some .punctuation
  | 's' => some .symbol
  | 'z' => some .separator
  | 'c' => some .other
  | _ => none

/-- The English characters of a class. -/
def englishRanges? : CharClass → Option Ranges
  | .digit => namedRanges? "digit".toList
  | .space => namedRanges? "space".toList
  | .word => namedRanges? "word".toList
  | .category _ => none

/-- A class under flags; case does not matter to it. -/
def Flags.cls (f : Flags) (negated : Bool) (k : CharClass) : Option CharSet :=
  if f.allScripts then some (if negated then .complement (.cls k) else .cls k)
  else if negated then none
  else (englishRanges? k).map .ranges

/-- What a backslash introduces. -/
inductive Escape where
  | char (c : Char)
  | set (s : CharSet)
  | anchor (a : Anchor)

def hexValue? (c : Char) : Option Nat :=
  if c.isDigit then some (c.toNat - '0'.toNat)
  else if c.isAlpha && c.toLower.toNat ≤ 'f'.toNat then some (c.toLower.toNat - 'a'.toNat + 10)
  else none

/-- The number that some hexadecimal digits add to, and what follows them. -/
def hex? (f : Flags) : Nat → Nat → List Char → Option (Nat × List Char)
  | 0, n, text => some (n, text)
  | digits + 1, n, text =>
    match f.skip text with
    | [] => none
    | c :: rest => do hex? f digits (16 * n + (← hexValue? c)) rest

/-- The character with a number. Two digits stand for a byte, which among English sets has to be
a character. -/
def hexChar? (f : Flags) (digits : Nat) (text : List Char) : Option (Escape × List Char) := do
  let (n, rest) ← hex? f digits 0 text
  if n.isValidChar && (f.allScripts || digits ≠ 2 || n < 0x80) then
    return (.char (Char.ofNat n), rest)
  else none

/-- A category named by a letter in either case. -/
def categoryEscape? (f : Flags) (negated : Bool) (text : List Char) :
    Option (Escape × List Char) :=
  match f.skip text with
  | [] => none
  | c :: rest => do
    let k ← category? c.toLower
    if f.allScripts then return (.set (← f.set negated (.cls (.category k))), rest) else none

/-- Boundaries of words are supported for English words only. -/
def boundary? (f : Flags) (a : Anchor) : Option Escape :=
  if f.allScripts then none else some (.anchor a)

/-- What one character behind a backslash stands for, if no others belong to it. -/
def single? (f : Flags) (c : Char) : Option Escape :=
  match c with
  | 'd' => (f.cls false .digit).map .set
  | 'D' => (f.cls true .digit).map .set
  | 's' => (f.cls false .space).map .set
  | 'S' => (f.cls true .space).map .set
  | 'w' => (f.cls false .word).map .set
  | 'W' => (f.cls true .word).map .set
  | 'a' => some (.char '\x07')
  | 't' => some (.char '\t')
  | 'n' => some (.char '\n')
  | 'v' => some (.char '\x0b')
  | 'f' => some (.char '\x0c')
  | 'r' => some (.char '\r')
  | 'A' => some (.anchor .textStart)
  | 'z' => some (.anchor .textEnd)
  | 'b' => boundary? f .wordBoundary
  | 'B' => boundary? f .noWordBoundary
  | '<' => boundary? f .wordStart
  | '>' => boundary? f .wordEnd
  | c => if c.isAlphanum || 0x80 ≤ c.toNat then none else some (.char c)

/-- What a backslash introduces, and what follows it. -/
def escape? (f : Flags) : List Char → Option (Escape × List Char)
  | [] => none
  | 'x' :: rest => hexChar? f 2 rest
  | 'u' :: rest => hexChar? f 4 rest
  | 'U' :: rest => hexChar? f 8 rest
  | 'p' :: rest => categoryEscape? f false rest
  | 'P' :: rest => categoryEscape? f true rest
  | c :: rest => (single? f c).map (·, rest)

end Kaleidoscope.Pattern
