import Kaleidoscope.Text.Pattern.OpenSet

/-!
Patterns from their notation. A reader takes one character at a time. Where more characters
belong together, it looks ahead at the first of them and then skips the others, so that it ends
with the text. What has been opened, groups or sets, is kept on a stack.
-/

namespace Kaleidoscope.Pattern

/-! ### Groups -/

/-- A group that has been opened: its alternatives so far, and the sequence that is being read.
Both have their last part first. -/
structure Group where
  alternatives : List Pattern
  sequence : List Pattern
  /-- Whether the last part can be repeated. -/
  repeatable : Bool

namespace Group

def fresh : Group :=
  ⟨[], [], false⟩

def push (g : Group) (p : Pattern) : Group :=
  ⟨g.alternatives, p :: g.sequence, true⟩

def last (g : Group) : Pattern :=
  g.sequence.foldl (fun after p => .seq p after) .empty

/-- The sequence becomes an alternative. -/
def bar (g : Group) : Group :=
  ⟨g.last :: g.alternatives, [], false⟩

def pattern (g : Group) : Pattern :=
  g.alternatives.foldl (fun others p => .alt p others) g.last

/-- Repeat the last part of the sequence, if there is one. -/
def repeated? (g : Group) (f : Pattern → Pattern) : Option Group :=
  match g.repeatable, g.sequence with
  | true, p :: before => some { g with sequence := f p :: before }
  | _, _ => none

end Group

/-- A pattern repeated as a sign says. -/
def repetition? (greedy : Bool) : Char → Option (Pattern → Pattern)
  | '*' => some (.star greedy)
  | '+' => some fun p => .seq p (.star greedy p)
  | '?' => some fun p => if greedy then .alt p .empty else .alt .empty p
  | _ => none

/-! ### The reader -/

structure Reader where
  /-- How many characters have been looked at already. -/
  ahead : Nat
  flags : Flags
  /-- The names of groups so far. -/
  names : List (List Char)
  group : Group
  /-- The groups around the group, and the flags that hold in them. -/
  outer : List (Group × Flags)
  /-- The sets that are open, the innermost first. -/
  sets : List OpenSet

namespace Reader

def initial : Reader :=
  ⟨0, .initial, [], .fresh, [], []⟩

/-- Go on behind what has been looked at. -/
def skipTo (r : Reader) (rest after : List Char) : Reader :=
  { r with ahead := rest.length - after.length }

def push (r : Reader) (p : Pattern) : Reader :=
  { r with group := r.group.push p }

def pushChar (r : Reader) (c : Char) : Reader :=
  let set :=
    if r.flags.caseless then .caseless (!r.flags.allScripts) (.singleton c) else .singleton c
  r.push (.char set)

def openGroup (r : Reader) (flags : Flags) : Reader :=
  { r with flags := flags, group := .fresh, outer := (r.group, r.flags) :: r.outer }

def closeGroup? (r : Reader) : Option Reader :=
  match r.outer with
  | [] => none
  | (g, flags) :: outer =>
    some { r with flags := flags, group := g.push r.group.pattern, outer := outer }

def isNameChar (first : Bool) (c : Char) : Bool :=
  c = '_' ||
    if first then isAlphanumeric c && !Category.number.contains c
    else isAlphanumeric c || c = '.' || c = '[' || c = ']'

/-- A group with a name, which no group before it has. -/
def namedGroup? (r : Reader) (rest text : List Char) : Option Reader :=
  let name := text.takeWhile (· ≠ '>')
  match name, text.dropWhile (· ≠ '>') with
  | c :: cs, '>' :: after =>
    if isNameChar true c && cs.all (isNameChar false) && !r.names.contains name then
      some ({ r with names := name :: r.names }.openGroup r.flags |>.skipTo rest after)
    else none
  | _, _ => none

/-- Flags for the rest of a group, or behind a colon a group under flags. -/
def flags? (r : Reader) (rest text : List Char) : Option Reader :=
  let isLetter (c : Char) : Bool := c ≠ ':' && c ≠ ')'
  let letters := text.takeWhile isLetter
  match text.dropWhile isLetter with
  | ':' :: after => do
    return (r.openGroup (← r.flags.setAll? true [] letters)).skipTo rest after
  | ')' :: after => do
    if letters.isEmpty then none
    else
      let flags ← r.flags.setAll? true [] letters
      let group := { r.group with repeatable := false }
      return { r with flags := flags, group := group }.skipTo rest after
  | _ => none

def opening? (r : Reader) (rest : List Char) : Option Reader :=
  match r.flags.skip rest with
  | '?' :: 'P' :: '<' :: text => r.namedGroup? rest text
  | '?' :: '<' :: text => r.namedGroup? rest text
  | '?' :: text => r.flags? rest text
  | _ => some (r.openGroup r.flags)

def point? (f : Flags) : Option CharSet :=
  if !f.allScripts then none
  else if f.acrossLines then some .all
  else if f.carriageReturns then some (.complement (.ranges [(0xA, 0xA), (0xD, 0xD)]))
  else some (.complement (.singleton '\n'))

def startAnchor (f : Flags) : Anchor :=
  if !f.atLines then .textStart else if f.carriageReturns then .anyLineStart else .lineStart

def endAnchor (f : Flags) : Anchor :=
  if !f.atLines then .textEnd else if f.carriageReturns then .anyLineEnd else .lineEnd

def escaped? (r : Reader) (rest : List Char) : Option Reader := do
  let (e, after) ← escape? r.flags rest
  let r := r.skipTo rest after
  match e with
  | .char c => return r.pushChar c
  | .set s => return r.push (.char s)
  | .anchor a => return r.push (.anchor a)

def repeated? (r : Reader) (c : Char) (rest : List Char) : Option Reader := do
  let marked := rest.head? = some '?'
  let group ← r.group.repeated? (← repetition? (marked == r.flags.reluctant) c)
  return { r with group := group, ahead := if marked then 1 else 0 }

def openSet (r : Reader) (rest : List Char) : Reader :=
  let (o, after) := OpenSet.ofText r.flags rest
  { r with sets := o :: r.sets }.skipTo rest after

/-- A closed set is a member of the one around it, or else a part of the pattern. -/
def closeSet? (r : Reader) (o : OpenSet) (outer : List OpenSet) : Option Reader := do
  let s ← r.flags.set o.negated (o.value r.flags)
  match outer with
  | [] => return { r with sets := [] }.push (.char s)
  | p :: outer => return { r with sets := p.add s :: outer }

/-- A character of a set. -/
def inSet? (r : Reader) (o : OpenSet) (outer : List OpenSet) (c : Char) (rest : List Char) :
    Option Reader :=
  match (if rest.head? = some c then operation? c else none) with
  | some op => some { r with sets := o.operate r.flags op :: outer, ahead := 1 }
  | none =>
    if c = ']' then r.closeSet? o outer
    else if c = '[' then
      match named? rest with
      | some (rs, negated, after) => do
        let s ← r.flags.set negated (.ranges rs)
        return { r with sets := o.add s :: outer }.skipTo rest after
      | none => some (r.openSet rest)
    else do
      let (s, after) ← range? r.flags c rest
      return { r with sets := o.add s :: outer }.skipTo rest after

/-- A character outside of sets. -/
def outside? (r : Reader) (c : Char) (rest : List Char) : Option Reader :=
  match c with
  | '(' => r.opening? rest
  | ')' => r.closeGroup?
  | '|' => some { r with group := r.group.bar }
  | '[' => some (r.openSet rest)
  | '*' | '+' | '?' => r.repeated? c rest
  | '\x7b' => none
  | '\\' => r.escaped? rest
  | '.' => (point? r.flags).map fun s => r.push (.char s)
  | '^' => some (r.push (.anchor (startAnchor r.flags)))
  | '$' => some (r.push (.anchor (endAnchor r.flags)))
  | c => some (r.pushChar c)

/-- Take a character before the rest of the text. -/
def step? (r : Reader) (c : Char) (rest : List Char) : Option Reader :=
  match r.ahead, r.sets with
  | n + 1, _ => some { r with ahead := n }
  | 0, sets =>
    if r.flags.spaced && (isWhitespace c || c = '#') then
      some (r.skipTo rest (Flags.dropBlanks (c = '#') rest))
    else
      match sets with
      | [] => r.outside? c rest
      | o :: outer => r.inSet? o outer c rest

def steps? (r : Reader) : List Char → Option Reader
  | [] => some r
  | c :: rest => do (← r.step? c rest).steps? rest

/-- The pattern at the end of a text, where nothing may be open. -/
def finish? (r : Reader) : Option Pattern :=
  if r.outer.isEmpty && r.sets.isEmpty then some r.group.pattern else none

end Reader

def ofText? (text : List Char) : Option Pattern := do
  (← Reader.initial.steps? text).finish?

end Kaleidoscope.Pattern
