import Kaleidoscope.Text.Pattern.Escape

/-!
Sets between brackets: members, ranges of them, named classes, and operations.
-/

namespace Kaleidoscope.Pattern

/-- A named class that may begin behind an opening bracket, whether it is negated, and what
follows it. -/
def named? : List Char → Option (Ranges × Bool × List Char)
  | ':' :: rest =>
    let negated := rest.head? = some '^'
    let rest := if negated then rest.tail else rest
    match rest.dropWhile (· ≠ ':') with
    | ':' :: ']' :: after => do
      return (← namedRanges? (rest.takeWhile (· ≠ ':')), negated, after)
    | _ => none
  | _ => none

/-- A member of a set that begins with a character, and what follows it. -/
def member? (f : Flags) (c : Char) (rest : List Char) : Option (Escape × List Char) :=
  if c = '\\' then escape? f rest else some (.char c, rest)

/-- Characters of English sets are English. -/
def memberChar? (f : Flags) : Escape → Option Char
  | .char c => if f.allScripts || c.toNat < 0x80 then some c else none
  | _ => none

def memberSet? (f : Flags) : Escape → Option CharSet
  | .char c => (memberChar? f (.char c)).map .singleton
  | .set s => some s
  | .anchor _ => none

/-- A member or a range of members, and what follows it. A dash before a closing bracket or
another dash makes no range. -/
def range? (f : Flags) (c : Char) (rest : List Char) : Option (CharSet × List Char) := do
  let (first, rest) ← member? f c rest
  match f.skip rest with
  | [] => none
  | '-' :: more =>
    match f.skip more with
    | [] => none
    | ']' :: _ => return (← memberSet? f first, f.skip rest)
    | '-' :: _ => return (← memberSet? f first, f.skip rest)
    | c :: more =>
      let (last, after) ← member? f c more
      let first ← memberChar? f first
      let last ← memberChar? f last
      if first.toNat ≤ last.toNat then return (.ranges [(first.toNat, last.toNat)], after)
      else none
  | after => return (← memberSet? f first, after)

inductive SetOperation where
  | inter
  | diff
  | symmDiff

def SetOperation.apply (f : Flags) (op : SetOperation) (s t : CharSet) : CharSet :=
  let s := if f.caseless then .caseless (!f.allScripts) s else s
  let t := if f.caseless then .caseless (!f.allScripts) t else t
  match op with
  | inter => .inter s t
  | diff => .diff s t
  | symmDiff => .symmDiff s t

def operation? (c : Char) : Option SetOperation :=
  match c with
  | '&' => some .inter
  | '-' => some .diff
  | '~' => some .symmDiff
  | _ => none

/-- A set that has been opened: whether it is negated, the operation that is still to be done
and its first set, and the members so far. -/
structure OpenSet where
  negated : Bool
  pending : Option (SetOperation × CharSet)
  members : CharSet

namespace OpenSet

def add (o : OpenSet) (s : CharSet) : OpenSet :=
  { o with members := .union o.members s }

/-- The members, with the operation before them done. -/
def value (f : Flags) (o : OpenSet) : CharSet :=
  match o.pending with
  | none => o.members
  | some (op, s) => op.apply f s o.members

/-- Operations are done from left to right. -/
def operate (f : Flags) (o : OpenSet) (op : SetOperation) : OpenSet :=
  ⟨o.negated, some (op, o.value f), .none⟩

/-- The set that begins behind an opening bracket, and what follows the beginning. Dashes that
come first are members, and so is a closing bracket. -/
def ofText (f : Flags) (text : List Char) : OpenSet × List Char :=
  let text := f.skip text
  let negated := text.head? = some '^'
  let text := if negated then f.skip text.tail else text
  match text with
  | ']' :: rest => (⟨negated, none, .singleton ']'⟩, rest)
  | '-' :: rest => (⟨negated, none, .singleton '-'⟩, rest.dropWhile (· = '-'))
  | text => (⟨negated, none, .none⟩, text)

end OpenSet

end Kaleidoscope.Pattern
