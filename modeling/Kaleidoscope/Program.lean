import Kaleidoscope.Statement.Reading
import Kaleidoscope.Token.OfText

/-!
Programs: statements read one after the other up to the end of the input. After a fault the
reader goes on behind the next `;`, so a fault costs the rest of its statement and nothing
else. A run keeps what happened step by step; the nodes, the faults and their order are views
of its steps.
-/

namespace Kaleidoscope

namespace Cursor

/-- Behind the next `;`, or on the end of the input if that comes first. -/
def skipStatement (c : Cursor) : Cursor :=
  if h : c.atEnd then c
  else
    have := remaining_next_lt (c := c) (by simpa [atEnd] using h)
    match c.kind with
    | .char ';' => c.next
    | _ => skipStatement c.next
termination_by c.remaining

theorem reaches_skipStatement (c : Cursor) : c.Reaches c.skipStatement := by
  fun_induction skipStatement c with
  | case1 c h => exact .refl c
  | case2 c h _ hk => exact reaches_next c
  | case3 c h _ hk ih => exact (reaches_next c).trans ih

theorem skipStatement_of_end {c : Cursor} (h : c.kind = .endOfInput) : c.skipStatement = c := by
  rw [skipStatement]
  simp [atEnd, h, Token.Kind.isEnd]

theorem skipStatement_of_separator {c : Cursor} (h : c.kind = .char ';') :
    c.skipStatement = c.next := by
  rw [skipStatement, dif_neg (by simp [atEnd, h, Token.Kind.isEnd])]
  split
  · rfl
  · contradiction

theorem skipStatement_of_ne {c : Cursor} (h : c.kind ≠ .endOfInput) (h' : c.kind ≠ .char ';') :
    c.skipStatement = c.next.skipStatement := by
  rw [skipStatement, dif_neg (by simp [atEnd_eq_false h])]
  split
  · contradiction
  · rfl

theorem skipStatement_lt {c : Cursor} (h : c.kind ≠ .endOfInput) :
    c.skipStatement.remaining < c.remaining := by
  have := remaining_next_lt h
  rw [skipStatement, dif_neg (by simp [atEnd_eq_false h])]
  split
  · exact this
  · exact Nat.lt_of_le_of_lt (reaches_skipStatement _).remaining_le this

end Cursor

inductive Step where
  | separator
  | statement (s : Statement)
  /-- A fault, and how many tokens recovering from it skipped. -/
  | fault (d : Diagnostic GrammarFault) (skipped : Nat)

/-- What a step delivers. -/
inductive Event where
  | node (n : Node)
  | fault (d : Diagnostic GrammarFault)

def Step.event? : Step → Option Event
  | separator => none
  | statement s => some (.node s.node)
  | fault d _ => some (.fault d)

/-- The steps of a program and where its reading ended. -/
structure Run where
  steps : List Step
  final : Cursor

namespace Run

def cons (s : Step) (r : Run) : Run :=
  { r with steps := s :: r.steps }

def events (r : Run) : List Event :=
  r.steps.filterMap Step.event?

def nodes (r : Run) : List Node :=
  r.events.filterMap fun
    | .node n => some n
    | .fault _ => none

def faults (r : Run) : List (Diagnostic GrammarFault) :=
  r.events.filterMap fun
    | .node _ => none
    | .fault d => some d

end Run

namespace Cursor

theorem ne_end_of_readItem {limit : Option Nat} {c c' : Cursor} {item : Item}
    (h : c.readItem limit = .ok (item, c')) (hi : item ≠ .finish) : c.kind ≠ .endOfInput := by
  intro hc
  rw [readItem_finish hc] at h
  simp only [Except.ok.injEq, Prod.mk.injEq] at h
  exact hi h.1.symm

theorem skipStatement_lt_of_readItem {limit : Option Nat} {c : Cursor} {f : Failure}
    (h : c.readItem limit = .error f) : f.cursor.skipStatement.remaining < c.remaining := by
  have r := moves_readItem limit c
  rw [h] at r
  have hc : c.kind ≠ .endOfInput := by
    intro hc
    rw [readItem_finish hc] at h
    contradiction
  by_cases hf : f.cursor.kind = .endOfInput
  · rw [skipStatement_of_end hf]
    exact Reaches.lt_of_atEnd r hc hf
  · exact Nat.lt_of_lt_of_le (skipStatement_lt hf) (Reaches.remaining_le r)

/-- Read the program that starts at the cursor. -/
def readProgram (limit : Option Nat) (c : Cursor) : Run :=
  match h : c.readItem limit with
  | .ok (.finish, c') => ⟨[], c'⟩
  | .ok (.separator, c') =>
    have := readItem_lt h (ne_end_of_readItem h (by simp))
    (readProgram limit c').cons .separator
  | .ok (.statement s, c') =>
    have := readItem_lt h (ne_end_of_readItem h (by simp))
    (readProgram limit c').cons (.statement s)
  | .error f =>
    have := skipStatement_lt_of_readItem h
    (readProgram limit f.cursor.skipStatement).cons
      (.fault f.diagnostic (f.cursor.skipStatement.index - f.cursor.index))
termination_by c.remaining

theorem readProgram_eq (limit : Option Nat) (c : Cursor) :
    c.readProgram limit =
      match c.readItem limit with
      | .ok (.finish, c') => ⟨[], c'⟩
      | .ok (.separator, c') => (c'.readProgram limit).cons .separator
      | .ok (.statement s, c') => (c'.readProgram limit).cons (.statement s)
      | .error f =>
        (f.cursor.skipStatement.readProgram limit).cons
          (.fault f.diagnostic (f.cursor.skipStatement.index - f.cursor.index)) := by
  rw [readProgram]
  split <;> rename_i h <;> simp only [h]

end Cursor

/-- The run of a program with the usual limit on nested expressions. -/
def Token.Stream.run (s : Token.Stream) : Run :=
  (Cursor.start s).readProgram (some nestingLimit)

/-- The run of a program given as text. -/
def Run.ofText (name : String) (text : List Char) : Except (Diagnostic LexicalFault) Run :=
  (Token.Stream.ofText name text).map Token.Stream.run

end Kaleidoscope
