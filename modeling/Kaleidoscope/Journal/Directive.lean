import Kaleidoscope.Journal.Basic
import Kaleidoscope.Number.Numeral
import Kaleidoscope.Text.Pattern.OfText

/-!
Directives, which say what of a journal is shown. A directive is a level; or a target, a stage
in square brackets, or both, and behind a sign `=` the level; the brackets can also hold, in
braces, a condition on the details of the stage. What is left out restricts nothing.
-/

namespace Kaleidoscope.Journal

/-- What is shown goes up to a level, or is nothing. -/
abbrev Threshold := Option Level

namespace Threshold

def rank (t : Threshold) : Nat :=
  t.elim 0 (·.rank + 1)

def admits (t : Threshold) (level : Level) : Bool :=
  level.rank < t.rank

def max (s t : Threshold) : Threshold :=
  if s.rank < t.rank then t else s

theorem rank_max (s t : Threshold) :
    (s.max t).rank = if s.rank < t.rank then t.rank else s.rank := by
  rw [max]
  split <;> rfl

theorem admits_max (s t : Threshold) (level : Level) :
    (s.max t).admits level = (s.admits level || t.admits level) := by
  simp only [admits, rank_max, ← Bool.decide_or]
  apply decide_eq_decide.2
  split <;> omega

def ofNat? : Nat → Option Threshold
  | 0 => some none
  | 1 => some (some .error)
  | 2 => some (some .warn)
  | 3 => some (some .info)
  | 4 => some (some .debug)
  | 5 => some (some .trace)
  | _ => none

/-- The threshold that a word names, in either case of letters, or a number. -/
def ofText? (text : List Char) : Option Threshold :=
  match (String.ofList text).toLower with
  | "off" => some none
  | "error" => some (some .error)
  | "warn" => some (some .warn)
  | "info" => some (some .info)
  | "debug" => some (some .debug)
  | "trace" => some (some .trace)
  | _ => (Numeral.natural? text).bind ofNat?

end Threshold

/-! ### Conditions -/

/-- What a detail has to be. -/
inductive Expected where
  | count (n : Nat)
  | source (text : String) (pattern : Pattern)
  /-- A truth value, or a number that counts nothing: no detail is one. -/
  | never
  deriving DecidableEq

def Expected.holds : Expected → Content → Bool
  | count n, .count m => n = m
  | source _ pattern, .source name => pattern.holds name
  | _, _ => false

/-- Counts are below 2 ^ 64; a text that names no number is a pattern. -/
def Expected.ofText? (text : List Char) : Option Expected :=
  if text = "true".toList || text = "false".toList then some never
  else
    match Numeral.natural? text with
    | some n => some (if n < Nat.pow 2 64 then count n else never)
    | none =>
      if Numeral.isNumeral text then some never
      else (Pattern.ofText? text).map (source (String.ofList text))

/-- That there is a detail, or also what it is. -/
structure Condition where
  key : String
  expected : Option Expected
  deriving DecidableEq

/-- A second sign `=` and what follows it are ignored. -/
def Condition.ofText? (text : List Char) : Option Condition :=
  match text.splitOn '=' with
  | key :: value :: _ => return ⟨String.ofList key, some (← Expected.ofText? value)⟩
  | _ => some ⟨String.ofList text, none⟩

/-! ### Directives -/

structure Directive where
  /-- The beginning of the targets concerned. -/
  target : Option String
  stage : Option String
  condition : Option Condition
  threshold : Threshold
  deriving DecidableEq

namespace Directive

/-- The first bytes of a text, if they are whole characters. -/
def firstBytes? : Nat → List Char → Option (List Char)
  | 0, _ => some []
  | _ + 1, [] => none
  | n + 1, c :: rest =>
    if c.utf8Size ≤ n + 1 then (firstBytes? (n + 1 - c.utf8Size) rest).map (c :: ·) else none

/-- A text from one byte up to another. -/
def cut? (text : List Char) (first last : Nat) : Option (List Char) := do
  let before ← firstBytes? first text
  let upTo ← firstBytes? last text
  return upTo.drop before.length

theorem firstBytes?_append (before rest : List Char) :
    firstBytes? (Utf8.size before) (before ++ rest) = some before := by
  induction before with
  | nil => rw [Utf8.size, firstBytes?]
  | cons c before ih =>
    have hpos := c.utf8Size_pos
    obtain ⟨n, hn⟩ : ∃ n, c.utf8Size + Utf8.size before = n + 1 :=
      ⟨c.utf8Size + Utf8.size before - 1, by omega⟩
    have hrest : n + 1 - c.utf8Size = Utf8.size before := by omega
    rw [List.cons_append, Utf8.size, hn, firstBytes?, if_pos (by omega), hrest, ih, Option.map_some]

theorem cut?_append (before middle rest : List Char) :
    cut? (before ++ middle ++ rest) (Utf8.size before) (Utf8.size before + Utf8.size middle) =
      some middle := by
  have hfirst := firstBytes?_append before (middle ++ rest)
  have hlast := firstBytes?_append (before ++ middle) rest
  rw [Utf8.size_append] at hlast
  rw [← List.append_assoc] at hfirst
  rw [cut?, hfirst, hlast]
  exact congrArg some List.drop_left

/-- A text from a byte on. -/
def cutFrom? (text : List Char) (first : Nat) : Option (List Char) :=
  cut? text first (Utf8.size text)

/-- What a character belongs to, and the byte at which it began. -/
inductive Part where
  | start
  /-- A level or a target, which only its end tells apart. -/
  | word (first : Nat)
  | stage (first : Nat)
  | condition (first : Nat)
  | conditionEnd
  | stageEnd
  | level (first : Nat)

/-- A directive that has been read in part. -/
structure Draft where
  directive : Directive
  part : Part

def Draft.fresh : Draft :=
  ⟨⟨none, none, none, some .trace⟩, .start⟩

def mayStartWord (c : Char) : Bool :=
  c = '-' || c = ':' || c = '_' || isAlphanumeric c

/-- Read the character at a byte of a text. -/
def Draft.step (text : List Char) (d : Draft) (c : Char) (place : Nat) : Option Draft :=
  let next := place + c.utf8Size
  match d.part with
  | .start =>
    if c = '[' then some { d with part := .stage next }
    else if mayStartWord c then some { d with part := .word place }
    else none
  | .word first =>
    if c = '=' || c = '[' then do
      let target ← cut? text first place
      return ⟨{ d.directive with target := some (String.ofList target) },
        if c = '=' then .level next else .stage next⟩
    else some d
  | .stage first =>
    if c = ']' || c = '\x7b' then do
      let name ← cut? text first place
      let stage := if c = '\x7b' && name.isEmpty then none else some (String.ofList name)
      return ⟨{ d.directive with stage := stage }, if c = ']' then .stageEnd else .condition next⟩
    else some d
  | .condition first =>
    if c = '\x7d' then do
      let condition ← cut? text first place
      if condition.isEmpty then none
      else
        return ⟨{ d.directive with condition := some (← Condition.ofText? condition) },
          .conditionEnd⟩
    else some d
  | .conditionEnd => if c = ']' then some { d with part := .stageEnd } else none
  | .stageEnd => if c = '=' then some { d with part := .level next } else none
  | .level _ => some d

def Draft.steps (text : List Char) (d : Draft) (place : Nat) : List Char → Option Draft
  | [] => some d
  | c :: rest => do steps text (← d.step text c place) (place + c.utf8Size) rest

/-- The directive at the end of a text. A level that is left out or empty shows everything. -/
def Draft.finish (text : List Char) (d : Draft) : Option Directive :=
  match d.part with
  | .word first => do
    let word ← cutFrom? text first
    match Threshold.ofText? word with
    | some threshold => return { d.directive with threshold := threshold }
    | none => return { d.directive with target := some (String.ofList word) }
  | .level first => do
    let word ← cutFrom? text first
    if word.isEmpty then return d.directive
    else return { d.directive with threshold := ← Threshold.ofText? word }
  | .stageEnd => some d.directive
  | _ => none

/-- The directive that a text holds. Blanks at its ends are passed over when its parts are
looked for, but not when they are cut out: the parts are taken from the whole text, at the
distances from its beginning at which they were found. -/
def ofText? (text : List Char) : Option Directive := do
  (← Draft.fresh.steps text 0 (trim text)).finish text

end Directive

end Kaleidoscope.Journal
