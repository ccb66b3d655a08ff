import Kaleidoscope.Diagnostic
import Kaleidoscope.Token.Basic

/-!
A place in a stream of tokens. A cursor that has passed every other token stands on the end of
the input that closes the stream, and stays there. Every reader of the grammar moves a
cursor, and one that fails leaves it on the offending token, so a failure is a cause and a
cursor and its location follows from them.

`Reaches` says what moving can do: it passes over tokens, none of them an end of input, and
keeps everything else. An end of input may also stand among the tokens ahead; it stops a cursor
like the last one. `Passes` names the tokens, and `ReachesWithin` says that no `;` is among them.
-/

namespace Kaleidoscope

/-- How many expressions may be inside one another, the whole expression counting as one. -/
def nestingLimit : Nat := 256

/-- The tokens still ahead, without the end of the input, whose place is `finish`; the number of
tokens passed; and how many expressions the reader is inside. -/
structure Cursor where
  ahead : List Token
  finish : Location
  index : Nat
  depth : Nat

namespace Cursor

/-- On the first token of a stream. -/
def start (s : Token.Stream) : Cursor :=
  ⟨s.body, s.finish, 0, 0⟩

/-- The token under the cursor and all that follow it. -/
def tokens (c : Cursor) : List Token :=
  c.ahead ++ [⟨.endOfInput, c.finish⟩]

def current (c : Cursor) : Token :=
  c.ahead.headD ⟨.endOfInput, c.finish⟩

def kind (c : Cursor) : Token.Kind :=
  c.current.kind

def location (c : Cursor) : Location :=
  c.current.location

def atEnd (c : Cursor) : Bool :=
  c.kind.isEnd

/-- The next place; the end of the input is never passed. -/
def next (c : Cursor) : Cursor :=
  if c.atEnd then c else { c with ahead := c.ahead.tail, index := c.index + 1 }

def remaining (c : Cursor) : Nat :=
  c.ahead.length

/-- Inside one expression more. -/
def descend (c : Cursor) : Cursor :=
  { c with depth := c.depth + 1 }

/-- Back in the expression around. -/
def ascend (c : Cursor) : Cursor :=
  { c with depth := c.depth - 1 }

/-- Whether the limit on nested expressions forbids entering another one. -/
def full (limit : Option Nat) (c : Cursor) : Bool :=
  limit.any (· ≤ c.depth)

@[simp] theorem remaining_descend (c : Cursor) : c.descend.remaining = c.remaining := rfl

@[simp] theorem remaining_ascend (c : Cursor) : c.ascend.remaining = c.remaining := rfl

@[simp] theorem ascend_descend (c : Cursor) : c.descend.ascend = c := rfl

theorem atEnd_eq_false {c : Cursor} (h : c.kind ≠ .endOfInput) : c.atEnd = false := by
  simpa [atEnd] using h

theorem next_of_ne_end {c : Cursor} (h : c.kind ≠ .endOfInput) :
    c.ahead = c.current :: c.next.ahead ∧
      c.next = { c with ahead := c.next.ahead, index := c.index + 1 } := by
  rcases c with ⟨_ | ⟨t, rest⟩, finish, index, depth⟩
  · exact absurd rfl h
  · simp [next, atEnd_eq_false h, current]

theorem remaining_next_lt {c : Cursor} (h : c.kind ≠ .endOfInput) :
    c.next.remaining < c.remaining := by
  simp [remaining, (next_of_ne_end h).1]

/-- What holds wherever it holds with less ahead holds everywhere. -/
@[elab_as_elim]
theorem ahead_induction {motive : Cursor → Prop} (c : Cursor)
    (step : ∀ c : Cursor, (∀ d : Cursor, d.remaining < c.remaining → motive d) → motive c) :
    motive c :=
  (measure remaining).wf.induction c step

/-- The second cursor is the first one moved over some tokens. -/
def Reaches (c c' : Cursor) : Prop :=
  ∃ used : List Token, c.ahead = used ++ c'.ahead ∧ (∀ t ∈ used, t.kind ≠ .endOfInput) ∧
    c' = { c with ahead := c'.ahead, index := c.index + used.length }

/-- The second cursor is the first one moved over exactly these tokens. -/
def Passes (c : Cursor) (used : List Token) (c' : Cursor) : Prop :=
  c.ahead = used ++ c'.ahead ∧ (∀ t ∈ used, t.kind ≠ .endOfInput) ∧
    c' = { c with ahead := c'.ahead, index := c.index + used.length }

theorem Reaches.refl (c : Cursor) : c.Reaches c :=
  ⟨[], by simp⟩

theorem Reaches.trans {c₁ c₂ c₃ : Cursor} (h : c₁.Reaches c₂) (h' : c₂.Reaches c₃) :
    c₁.Reaches c₃ := by
  obtain ⟨used, ha, hk, he⟩ := h
  obtain ⟨used', ha', hk', he'⟩ := h'
  refine ⟨used ++ used', by simp [ha, ha'], ?_, ?_⟩
  · intro t ht
    rcases List.mem_append.1 ht with ht | ht
    · exact hk t ht
    · exact hk' t ht
  · rw [he', he]
    simp [Nat.add_assoc]

theorem next_of_end {c : Cursor} (h : c.kind = .endOfInput) : c.next = c := by
  simp [next, atEnd, h, Token.Kind.isEnd]

theorem reaches_next (c : Cursor) : c.Reaches c.next := by
  by_cases h : c.kind = .endOfInput
  · rw [next_of_end h]
    exact .refl c
  · obtain ⟨ha, he⟩ := next_of_ne_end h
    exact ⟨[c.current], ha, by simpa [kind] using h, he⟩

theorem Reaches.remaining_le {c c' : Cursor} (h : c.Reaches c') : c'.remaining ≤ c.remaining := by
  obtain ⟨used, ha, -, -⟩ := h
  simp [remaining, ha]

theorem Reaches.depth_eq {c c' : Cursor} (h : c.Reaches c') : c'.depth = c.depth := by
  obtain ⟨_, -, -, he⟩ := h
  rw [he]

theorem depth_next (c : Cursor) : c.next.depth = c.depth :=
  (reaches_next c).depth_eq

theorem remaining_next_le (c : Cursor) : c.next.remaining ≤ c.remaining :=
  (reaches_next c).remaining_le

/-! ### The tokens passed -/

variable {c c' : Cursor} {t : Token} {used used' : List Token}

theorem reaches_iff : c.Reaches c' ↔ ∃ used, c.Passes used c' := Iff.rfl

theorem current_of_ahead {rest : List Token} (h : c.ahead = t :: rest) : c.current = t := by
  simp [current, h]

theorem next_of_ahead {rest : List Token} (h : c.ahead = t :: rest) (ht : t.kind ≠ .endOfInput) :
    c.next = { c with ahead := rest, index := c.index + 1 } := by
  have hk : c.kind ≠ .endOfInput := by rwa [kind, current_of_ahead h]
  rw [next, atEnd_eq_false hk, h]
  rfl

@[simp] theorem passes_nil : c.Passes [] c' ↔ c' = c := by
  constructor
  · rintro ⟨ha, -, he⟩
    rw [he, ← show c.ahead = c'.ahead from ha]
    rfl
  · rintro rfl
    exact ⟨rfl, by simp, rfl⟩

theorem passes_cons : c.Passes (t :: used) c' ↔
    c.current = t ∧ t.kind ≠ .endOfInput ∧ c.next.Passes used c' := by
  constructor
  · rintro ⟨ha, hk, he⟩
    have ht := hk t (by simp)
    refine ⟨current_of_ahead ha, ht, ?_⟩
    rw [next_of_ahead ha ht]
    refine ⟨rfl, fun u hu => hk u (by simp [hu]), ?_⟩
    rw [he]
    simp [Nat.add_assoc, Nat.add_comm 1]
  · rintro ⟨rfl, ht, ha, hk, he⟩
    obtain ⟨hc, hn⟩ := next_of_ne_end ht
    refine ⟨by rw [hc, ha]; rfl, by simpa using ⟨ht, hk⟩, ?_⟩
    rw [he, hn]
    simp [Nat.add_assoc, Nat.add_comm 1]

theorem passes_append : c.Passes (used ++ used') c' ↔
    ∃ c₁, c.Passes used c₁ ∧ c₁.Passes used' c' := by
  induction used generalizing c with
  | nil => simp
  | cons t used ih => simp only [List.cons_append, passes_cons, ih, ← exists_and_left, and_assoc]

theorem passes_singleton : c.Passes [t] c' ↔
    c.current = t ∧ t.kind ≠ .endOfInput ∧ c' = c.next := by
  rw [passes_cons, passes_nil]

theorem passes_next (h : c.kind ≠ .endOfInput) : c.Passes [c.current] c.next :=
  passes_singleton.2 ⟨rfl, h, rfl⟩

theorem Passes.trans {c₁ : Cursor} (h : c.Passes used c₁) (h' : c₁.Passes used' c') :
    c.Passes (used ++ used') c' :=
  passes_append.2 ⟨c₁, h, h'⟩

theorem Passes.reaches (h : c.Passes used c') : c.Reaches c' := ⟨used, h⟩

theorem Passes.depth_eq (h : c.Passes used c') : c'.depth = c.depth :=
  h.reaches.depth_eq

@[simp] theorem passes_descend : c.descend.Passes used c'.descend ↔ c.Passes used c' := by
  rcases c with ⟨ahead, finish, index, depth⟩
  rcases c' with ⟨ahead', finish', index', depth'⟩
  simp [Passes, descend]

/-- Only a cursor inside an expression is passed to from inside one. -/
theorem Passes.descend_ascend (h : c.descend.Passes used c') : c'.ascend.descend = c' := by
  obtain ⟨-, -, he⟩ := h
  rw [he]
  rfl

/-- The second cursor is the first one moved over some tokens of its statement. -/
def ReachesWithin (c c' : Cursor) : Prop :=
  ∃ used : List Token, c.Passes used c' ∧ ∀ t ∈ used, t.kind ≠ .char ';'

namespace ReachesWithin

theorem refl (c : Cursor) : c.ReachesWithin c :=
  ⟨[], by simp⟩

theorem trans {c₁ c₂ c₃ : Cursor} (h : c₁.ReachesWithin c₂) (h' : c₂.ReachesWithin c₃) :
    c₁.ReachesWithin c₃ := by
  obtain ⟨used, hp, hs⟩ := h
  obtain ⟨used', hp', hs'⟩ := h'
  refine ⟨used ++ used', hp.trans hp', ?_⟩
  intro t ht
  rcases List.mem_append.1 ht with ht | ht
  · exact hs t ht
  · exact hs' t ht

theorem reaches {c c' : Cursor} (h : c.ReachesWithin c') : c.Reaches c' := by
  obtain ⟨used, hp, -⟩ := h
  exact hp.reaches

/-- Moving inside an expression and leaving it is moving. -/
theorem ascend {c c' : Cursor} (h : c.descend.ReachesWithin c') : c.ReachesWithin c'.ascend := by
  obtain ⟨used, hp, hs⟩ := h
  rw [← hp.descend_ascend, passes_descend] at hp
  exact ⟨used, hp, hs⟩

end ReachesWithin

theorem reachesWithin_next (h : c.kind ≠ .char ';') : c.ReachesWithin c.next := by
  by_cases he : c.kind = .endOfInput
  · rw [next_of_end he]
    exact .refl c
  · exact ⟨[c.current], passes_next he, by simpa [kind] using h⟩

/-- The end of the input is not left behind: a cursor that is not on one and reaches one has
moved. -/
theorem Reaches.lt_of_atEnd (h : c.Reaches c') (hc : c.kind ≠ .endOfInput)
    (hc' : c'.kind = .endOfInput) : c'.remaining < c.remaining := by
  obtain ⟨used, ha, -, he⟩ := h
  cases used with
  | nil =>
      have same : c' = c := by
        rw [he, ← show c.ahead = c'.ahead from ha]
        rfl
      exact absurd (same ▸ hc') hc
  | cons t used =>
      rw [remaining, remaining, ha, List.cons_append, List.length_cons, List.length_append]
      omega

end Cursor

/-- A failed reading: why, and where it left the cursor. -/
structure Failure where
  cause : GrammarFault
  cursor : Cursor

namespace Failure

def location (f : Failure) : Location :=
  f.cursor.location

/-- What is reported: the cause at the token that the cursor was left on. -/
def diagnostic (f : Failure) : Diagnostic GrammarFault :=
  ⟨f.location, f.cause⟩

/-- The same failure, seen from the expression around. -/
def ascend (f : Failure) : Failure :=
  { f with cursor := f.cursor.ascend }

end Failure

/-- What a reader gives: a result and the cursor behind it, or a failure. -/
abbrev Outcome (α : Type) := Except Failure (α × Cursor)

end Kaleidoscope
