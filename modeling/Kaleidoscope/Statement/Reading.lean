import Kaleidoscope.Expr.Progress
import Kaleidoscope.Statement.Basic

/-!
Reading statements. `readItem` reads what stands at the cursor: a statement, the separator of an
empty statement, or the end of the input. Like the readers of expressions these only move, and
everything but the end of the input passes at least one token (`readItem_lt`).
-/

namespace Kaleidoscope

/-- What stands at the top level of a program. -/
inductive Item where
  | statement (s : Statement)
  | separator
  | finish

def Outcome.map {α β : Type} (f : α → β) : Outcome α → Outcome β
  | .error e => .error e
  | .ok (a, c) => .ok (f a, c)

namespace Cursor

/-- One parameter or more, through the closing parenthesis. -/
def readParameters (c : Cursor) : Outcome (List String) :=
  match h : c.kind with
  | .identifier name =>
    have := remaining_next_lt (c := c) (by simp [h])
    match c.next.kind with
    | .char ')' => .ok ([name], c.next.next)
    | .char ',' => (readParameters c.next.next).map (name :: ·)
    | _ => .error ⟨.parameterEndExpected, c.next⟩
  | _ => .error ⟨.parameterNameExpected, c⟩
termination_by c.remaining
decreasing_by
  exact Nat.lt_of_le_of_lt (remaining_next_le _) this

/-- A name and its parameters in parentheses. -/
def readPrototype (c : Cursor) : Outcome Prototype :=
  match c.kind with
  | .identifier name =>
    match c.next.kind with
    | .char '(' =>
      match c.next.next.kind with
      | .char ')' => .ok (⟨c.location, name, []⟩, c.next.next.next)
      | _ => c.next.next.readParameters.map (⟨c.location, name, ·⟩)
    | _ => .error ⟨.parametersExpected, c.next⟩
  | _ => .error ⟨.functionNameExpected, c⟩

def readDefinition (limit : Option Nat) (c : Cursor) : Outcome Function :=
  match c.kind with
  | .defWord =>
    match c.next.readPrototype with
    | .error f => .error f
    | .ok (prototype, c₁) => (c₁.readExpression limit).map (⟨prototype, ·⟩)
  | _ => .error ⟨.defExpected, c⟩

def readExtern (c : Cursor) : Outcome Prototype :=
  match c.kind with
  | .externWord => c.next.readPrototype
  | _ => .error ⟨.externExpected, c⟩

/-- A bare expression, as the body of a function without a name that stands where it starts. -/
def readBare (limit : Option Nat) (c : Cursor) : Outcome Function :=
  (c.readExpression limit).map (⟨.anonymous c.location, ·⟩)

def readItem (limit : Option Nat) (c : Cursor) : Outcome Item :=
  match c.kind with
  | .endOfInput => .ok (.finish, c)
  | .defWord => (c.readDefinition limit).map (.statement <| .definition ·)
  | .externWord => c.readExtern.map (.statement <| .external ·)
  | .char ';' => .ok (.separator, c.next)
  | _ => (c.readBare limit).map (.statement <| .expression ·)

end Cursor

/-! ### Progress -/

/-- A success stands behind fewer tokens than `n`. -/
def Outcome.Before {α : Type} (n : Nat) : Outcome α → Prop
  | .error _ => True
  | .ok (_, c) => c.remaining < n

namespace Outcome

variable {α β : Type} {o : Outcome α} {f : α → β}

theorem Stays.map {c : Cursor} (h : o.Stays c) : (o.map f).Stays c := by
  cases o <;> exact h

@[simp] theorem map_eq_ok_iff {b : β} {c : Cursor} :
    o.map f = .ok (b, c) ↔ ∃ a, o = .ok (a, c) ∧ f a = b := by
  cases o with
  | error e => simp [Outcome.map]
  | ok a =>
      constructor
      · intro h
        obtain ⟨hb, rfl⟩ : f a.1 = b ∧ a.2 = c := by simpa [Outcome.map] using h
        exact ⟨a.1, rfl, hb⟩
      · rintro ⟨a', ha, rfl⟩
        obtain rfl : a = (a', c) := Except.ok.inj ha
        rfl

theorem Before.map {n : Nat} (h : o.Before n) : (o.map f).Before n := by
  cases o <;> exact h

theorem Before.mono {m n : Nat} (h : o.Before m) (hle : m ≤ n) : o.Before n := by
  cases o with
  | error f => trivial
  | ok a => exact Nat.lt_of_lt_of_le h hle

end Outcome

namespace Cursor

variable (limit : Option Nat) (c : Cursor)

theorem before_readExpression : (c.readExpression limit).Before c.remaining := by
  cases h : c.readExpression limit with
  | error f => trivial
  | ok a => exact readExpression_lt h

theorem stays_readParameters : c.readParameters.Stays c := by
  fun_induction readParameters c with
  | case1 c name hk _ hk' =>
      exact (reachesWithin_next (by simp [hk])).trans (reachesWithin_next (by simp [hk']))
  | case2 c name hk _ hk' ih =>
      exact ih.map.after
        ((reachesWithin_next (by simp [hk])).trans (reachesWithin_next (by simp [hk'])))
  | case3 c name hk _ _ _ => exact reachesWithin_next (by simp [hk])
  | case4 c _ => exact .refl c

theorem before_readParameters : c.readParameters.Before c.remaining := by
  fun_induction readParameters c with
  | case1 c name _ h _ => exact Nat.lt_of_le_of_lt (remaining_next_le _) h
  | case2 c name _ _ _ ih =>
      exact ih.map.mono (Nat.le_trans (remaining_next_le _) (remaining_next_le c))
  | case3 => trivial
  | case4 => trivial

theorem stays_readPrototype : c.readPrototype.Stays c := by
  unfold readPrototype
  split <;> rename_i hk
  · have r₁ : c.ReachesWithin c.next := reachesWithin_next (by simp [hk])
    split <;> rename_i hk'
    · have r₂ := r₁.trans (reachesWithin_next (by simp [hk']))
      split <;> rename_i hk''
      · exact r₂.trans (reachesWithin_next (by simp [hk'']))
      · exact (stays_readParameters _).map.after r₂
    · exact r₁
  · exact .refl c

theorem before_readPrototype : c.readPrototype.Before c.remaining := by
  unfold readPrototype
  have h₁ := remaining_next_le c
  have h₂ := remaining_next_le c.next
  split <;> rename_i h
  · split
    · split
      · have h₃ := remaining_next_le c.next.next
        exact Nat.lt_of_le_of_lt (Nat.le_trans h₃ h₂) (remaining_next_lt (by simp [h]))
      · exact (before_readParameters _).map.mono (Nat.le_trans h₂ h₁)
    · trivial
  · trivial

theorem stays_readDefinition : (c.readDefinition limit).Stays c := by
  unfold readDefinition
  split <;> rename_i hk
  · have r := (stays_readPrototype c.next).after (reachesWithin_next (by simp [hk]))
    split <;> rename_i h <;> rw [h] at r
    · exact r
    · exact (stays_readExpression limit _).map.after r
  · exact .refl c

theorem before_readDefinition : (c.readDefinition limit).Before c.remaining := by
  unfold readDefinition
  split
  · have b := (before_readPrototype c.next).mono (remaining_next_le c)
    split <;> rename_i h <;> rw [h] at b
    · trivial
    · exact (before_readExpression limit _).map.mono (Nat.le_of_lt b)
  · trivial

theorem stays_readExtern : c.readExtern.Stays c := by
  unfold readExtern
  split <;> rename_i hk
  · exact (stays_readPrototype _).after (reachesWithin_next (by simp [hk]))
  · exact .refl c

theorem before_readExtern : c.readExtern.Before c.remaining := by
  unfold readExtern
  split
  · exact (before_readPrototype _).mono (remaining_next_le c)
  · trivial

theorem stays_readBare : (c.readBare limit).Stays c :=
  (stays_readExpression limit c).map

theorem before_readBare : (c.readBare limit).Before c.remaining :=
  (before_readExpression limit c).map

/-- Of all that stands at the top level only a separator ends a statement. -/
theorem stays_readItem (h : c.kind ≠ .char ';') : (c.readItem limit).Stays c := by
  unfold readItem
  split
  · exact .refl c
  · exact (stays_readDefinition limit c).map
  · exact (stays_readExtern c).map
  · contradiction
  · exact (stays_readBare limit c).map

theorem moves_readItem : (c.readItem limit).Moves c := by
  by_cases h : c.kind = .char ';'
  · rw [readItem, h]
    exact reaches_next c
  · exact (stays_readItem limit c h).moves

variable {limit c} {c' : Cursor}

theorem readItem_lt {item : Item} (h : c.readItem limit = .ok (item, c'))
    (hc : c.kind ≠ .endOfInput) : c'.remaining < c.remaining := by
  have : (c.readItem limit).Before c.remaining := by
    unfold readItem
    split
    · contradiction
    · exact (before_readDefinition limit c).map
    · exact (before_readExtern c).map
    · exact remaining_next_lt hc
    · exact (before_readBare limit c).map
  rw [h] at this
  exact this

/-- Only the end of the input ends a program. -/
theorem readItem_finish (h : c.kind = .endOfInput) : c.readItem limit = .ok (.finish, c) := by
  simp [readItem, h]

theorem readItem_separator (h : c.kind = .char ';') :
    c.readItem limit = .ok (.separator, c.next) := by
  simp [readItem, h]

theorem end_of_readItem (h : c.readItem limit = .ok (.finish, c')) :
    c.kind = .endOfInput ∧ c' = c := by
  rw [readItem] at h
  split at h <;> rename_i hk
  · exact ⟨hk, by simpa using h.symm⟩
  all_goals simp at h

theorem separator_of_readItem (h : c.readItem limit = .ok (.separator, c')) :
    c.kind = .char ';' ∧ c' = c.next := by
  rw [readItem] at h
  split at h <;> rename_i hk
  case h_4 => exact ⟨hk, by simpa using h.symm⟩
  all_goals simp at h

end Cursor

end Kaleidoscope
