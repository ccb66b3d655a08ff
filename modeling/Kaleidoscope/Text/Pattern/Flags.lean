import Kaleidoscope.Text.CharSet

/-!
The flags of patterns: how they are written, and what they make of blanks and of sets.
-/

namespace Kaleidoscope.Pattern

/-- Flags change what stands behind them in a group. -/
structure Flags where
  /-- Letters stand for all their cases. -/
  caseless : Bool
  /-- The signs for start and end hold at lines. -/
  atLines : Bool
  /-- A point stands for the end of a line too. -/
  acrossLines : Bool
  /-- Repetitions are reluctant, and greedy if a question mark follows. -/
  reluctant : Bool
  /-- Lines also end with a carriage return. -/
  carriageReturns : Bool
  /-- Classes and cases are those of all scripts. -/
  allScripts : Bool
  /-- Blanks and comments mean nothing. -/
  spaced : Bool

namespace Flags

def initial : Flags :=
  ⟨false, false, false, false, false, true, false⟩

def set? (f : Flags) (value : Bool) : Char → Option Flags
  | 'i' => some { f with caseless := value }
  | 'm' => some { f with atLines := value }
  | 's' => some { f with acrossLines := value }
  | 'U' => some { f with reluctant := value }
  | 'R' => some { f with carriageReturns := value }
  | 'u' => some { f with allScripts := value }
  | 'x' => some { f with spaced := value }
  | _ => none

/-- Change flags by letters, none of which may come twice. Flags behind a dash are taken
back. -/
def setAll? (f : Flags) (value : Bool) (seen : List Char) : List Char → Option Flags
  | [] => if seen.head? = some '-' then none else some f
  | '-' :: rest => if value then f.setAll? false ('-' :: seen) rest else none
  | c :: rest => do
    if seen.contains c then none else (← f.set? value c).setAll? value (c :: seen) rest

/-- A text without the blanks and comments at its beginning. A comment ends with its line. -/
def dropBlanks (inComment : Bool) : List Char → List Char
  | [] => []
  | c :: rest =>
    if inComment then dropBlanks (c ≠ '\n') rest
    else if isWhitespace c then dropBlanks false rest
    else if c = '#' then dropBlanks true rest
    else c :: rest

theorem length_dropBlanks_le (inComment : Bool) (text : List Char) :
    (dropBlanks inComment text).length ≤ text.length := by
  induction text generalizing inComment with
  | nil => exact Nat.le_refl _
  | cons c rest ih =>
    rw [dropBlanks]
    split
    · exact Nat.le_succ_of_le (ih _)
    · split
      · exact Nat.le_succ_of_le (ih _)
      · split
        · exact Nat.le_succ_of_le (ih _)
        · exact Nat.le_refl _

def skip (f : Flags) (text : List Char) : List Char :=
  if f.spaced then dropBlanks false text else text

end Flags

/-- A set under flags. English sets have no complement, since a part of a character might be in
it. -/
def Flags.set (f : Flags) (negated : Bool) (s : CharSet) : Option CharSet :=
  let s := if f.caseless then .caseless (!f.allScripts) s else s
  if !negated then some s
  else if f.allScripts then some (.complement s)
  else none

end Kaleidoscope.Pattern
