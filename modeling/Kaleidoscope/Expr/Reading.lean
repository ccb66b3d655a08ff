import Kaleidoscope.Cursor
import Kaleidoscope.Expr.Basic
import Kaleidoscope.Expr.Operator

/-!
Reading expressions by recursive descent, with one token of lookahead. A chain of operators is
read by precedence climbing: `chain` folds operators that bind at least as tightly as a
threshold onto a left operand, and hands a tighter tail to itself with a higher threshold.

The readers call one another, and the recursion ends because each success stands behind fewer
tokens than its start. The readers in `Descent` carry that fact with their results. Those of
`Cursor` drop it, and `readExpression_eq`, `readPrimary_eq`, `readArguments_eq`,
`readArgumentList_eq` and `readChain_eq` are the equations by which they are to be reasoned
about.
-/

namespace Kaleidoscope

/-- A result and the cursor behind it, with fewer than `bound` tokens ahead. -/
structure Within (bound : Nat) (α : Type) where
  result : α
  cursor : Cursor
  lt : cursor.remaining < bound

/-- The reading without its bound. -/
def Within.forget {bound : Nat} {α : Type} : Except Failure (Within bound α) → Outcome α
  | .error f => .error f
  | .ok w => .ok (w.result, w.cursor)

@[simp] theorem Within.forget_error {bound : Nat} {α : Type} (f : Failure) :
    Within.forget (.error f : Except Failure (Within bound α)) = .error f := rfl

@[simp] theorem Within.forget_ok {bound : Nat} {α : Type} (w : Within bound α) :
    Within.forget (.ok w) = .ok (w.result, w.cursor) := rfl

/-- A reading seen from the expression around. -/
def Outcome.ascend {α : Type} : Outcome α → Outcome α
  | .error f => .error f.ascend
  | .ok (a, c) => .ok (a, c.ascend)

/-- A reading that passes at least one token if it succeeds. -/
abbrev Advancing (c : Cursor) (α : Type) :=
  Except Failure (Within c.remaining α)

/-- A reading that may succeed without moving. -/
abbrev Continuing (c : Cursor) (α : Type) :=
  Except Failure (Within (c.remaining + 1) α)

namespace Descent

mutual

/-- An expression, one level deeper than what is around it. -/
def expression (limit : Option Nat) (c : Cursor) : Advancing c Expr :=
  if c.full limit then .error ⟨.nestingTooDeep, c⟩
  else
    match primary limit c.descend with
    | .error f => .error f.ascend
    | .ok ⟨left, c₁, h₁⟩ =>
      have h₁ : c₁.remaining < c.remaining := h₁
      match chain limit 0 left c₁ with
      | .error f => .error f.ascend
      | .ok ⟨e, c₂, h₂⟩ => .ok ⟨e, c₂.ascend, Nat.lt_of_lt_of_le h₂ h₁⟩
termination_by 4 * c.remaining + 1

/-- A number, a reference, a call or an expression in parentheses. -/
def primary (limit : Option Nat) (c : Cursor) : Advancing c Expr :=
  match h : c.kind with
  | .number value => .ok ⟨.number c.location value, c.next,
      Cursor.remaining_next_lt (by simp [h])⟩
  | .identifier name =>
    have h₁ : c.next.remaining < c.remaining := Cursor.remaining_next_lt (by simp [h])
    match h' : c.next.kind with
    | .char '(' =>
      have h₂ := Cursor.remaining_next_le c.next
      match arguments limit c.next.next with
      | .error f => .error f
      | .ok ⟨es, c₁, h₃⟩ => .ok ⟨.call c.location name es, c₁, by omega⟩
    | _ => .ok ⟨.reference c.location name, c.next, h₁⟩
  | .char '(' =>
    have h₁ : c.next.remaining < c.remaining := Cursor.remaining_next_lt (by simp [h])
    match expression limit c.next with
    | .error f => .error f
    | .ok ⟨e, c₁, h₂⟩ =>
      match c₁.kind with
      | .char ')' => .ok ⟨e, c₁.next, by
          have := Cursor.remaining_next_le c₁
          omega⟩
      | _ => .error ⟨.closingExpected, c₁⟩
  | _ => .error ⟨.expressionExpected, c⟩
termination_by 4 * c.remaining

/-- The arguments of a call, from behind its opening parenthesis. -/
def arguments (limit : Option Nat) (c : Cursor) : Advancing c (List Expr) :=
  match h : c.kind with
  | .char ')' => .ok ⟨[], c.next, Cursor.remaining_next_lt (by simp [h])⟩
  | _ => argumentList limit c
termination_by 4 * c.remaining + 3

/-- One argument or more, through the closing parenthesis. -/
def argumentList (limit : Option Nat) (c : Cursor) : Advancing c (List Expr) :=
  match expression limit c with
  | .error f => .error f
  | .ok ⟨e, c₁, h₁⟩ =>
    have h₂ := Cursor.remaining_next_le c₁
    match c₁.kind with
    | .char ')' => .ok ⟨[e], c₁.next, by omega⟩
    | .char ',' =>
      match argumentList limit c₁.next with
      | .error f => .error f
      | .ok ⟨es, c₂, h₃⟩ => .ok ⟨e :: es, c₂, by omega⟩
    | _ => .error ⟨.argumentEndExpected, c₁⟩
termination_by 4 * c.remaining + 2

/-- The operators from here on that bind at least as tightly as `p`, folded onto `left`. -/
def chain (limit : Option Nat) (p : Nat) (left : Expr) (c : Cursor) : Continuing c Expr :=
  match h : c.kind.operator? with
  | none => .ok ⟨left, c, Nat.lt_succ_self _⟩
  | some (op, q) =>
    if q < p then .ok ⟨left, c, Nat.lt_succ_self _⟩
    else
      have h₁ : c.next.remaining < c.remaining :=
        Cursor.remaining_next_lt (fun he => by simp [he, Token.Kind.operator?] at h)
      match primary limit c.next with
      | .error f => .error f
      | .ok ⟨right, c₁, h₂⟩ =>
        if c₁.kind.bindsTighter q then
          match chain limit (q + 1) right c₁ with
          | .error f => .error f
          | .ok ⟨right', c₂, h₃⟩ =>
            match chain limit p (.binary c.location op left right') c₂ with
            | .error f => .error f
            | .ok ⟨e, c₃, h₄⟩ => .ok ⟨e, c₃, by omega⟩
        else
          match chain limit p (.binary c.location op left right) c₁ with
          | .error f => .error f
          | .ok ⟨e, c₂, h₃⟩ => .ok ⟨e, c₂, by omega⟩
termination_by 4 * c.remaining

end

end Descent

namespace Cursor

/-- Read an expression. With a limit, so many expressions may be inside one another. -/
def readExpression (limit : Option Nat) (c : Cursor) : Outcome Expr :=
  Within.forget (Descent.expression limit c)

def readPrimary (limit : Option Nat) (c : Cursor) : Outcome Expr :=
  Within.forget (Descent.primary limit c)

def readArguments (limit : Option Nat) (c : Cursor) : Outcome (List Expr) :=
  Within.forget (Descent.arguments limit c)

def readArgumentList (limit : Option Nat) (c : Cursor) : Outcome (List Expr) :=
  Within.forget (Descent.argumentList limit c)

def readChain (limit : Option Nat) (p : Nat) (left : Expr) (c : Cursor) : Outcome Expr :=
  Within.forget (Descent.chain limit p left c)

variable (limit : Option Nat)

theorem readExpression_eq (c : Cursor) :
    c.readExpression limit =
      if c.full limit then .error ⟨.nestingTooDeep, c⟩
      else
        Outcome.ascend
          (match c.descend.readPrimary limit with
          | .error f => .error f
          | .ok (left, c₁) => c₁.readChain limit 0 left) := by
  unfold readExpression readPrimary
  rw [Descent.expression]
  split
  · rfl
  · cases Descent.primary limit c.descend with
    | error f => rfl
    | ok w =>
        unfold readChain
        simp only [Within.forget_ok]
        cases Descent.chain limit 0 w.result w.cursor with
        | error f => rfl
        | ok w' => rfl

theorem readPrimary_eq (c : Cursor) :
    c.readPrimary limit =
      match c.kind with
      | .number value => .ok (.number c.location value, c.next)
      | .identifier name =>
        match c.next.kind with
        | .char '(' =>
          match c.next.next.readArguments limit with
          | .error f => .error f
          | .ok (es, c₁) => .ok (.call c.location name es, c₁)
        | _ => .ok (.reference c.location name, c.next)
      | .char '(' =>
        match c.next.readExpression limit with
        | .error f => .error f
        | .ok (e, c₁) =>
          match c₁.kind with
          | .char ')' => .ok (e, c₁.next)
          | _ => .error ⟨.closingExpected, c₁⟩
      | _ => .error ⟨.expressionExpected, c⟩ := by
  unfold readPrimary readArguments readExpression
  rw [Descent.primary]
  split <;> rename_i h
  · simp only [h, Within.forget_ok]
  · simp only [h]
    split <;> rename_i h'
    · simp only [h']
      cases Descent.arguments limit c.next.next with
      | error f => rfl
      | ok w => rfl
    · simp
  · simp only [h]
    cases Descent.expression limit c.next with
    | error f => rfl
    | ok w =>
        simp only [Within.forget_ok]
        split
        · simp only [Within.forget_ok]
        · simp
  · simp

theorem readArguments_eq (c : Cursor) :
    c.readArguments limit =
      match c.kind with
      | .char ')' => .ok ([], c.next)
      | _ => c.readArgumentList limit := by
  unfold readArguments readArgumentList
  rw [Descent.arguments]
  split <;> rename_i h
  · simp only [h, Within.forget_ok]
  · simp

theorem readArgumentList_eq (c : Cursor) :
    c.readArgumentList limit =
      match c.readExpression limit with
      | .error f => .error f
      | .ok (e, c₁) =>
        match c₁.kind with
        | .char ')' => .ok ([e], c₁.next)
        | .char ',' =>
          match c₁.next.readArgumentList limit with
          | .error f => .error f
          | .ok (es, c₂) => .ok (e :: es, c₂)
        | _ => .error ⟨.argumentEndExpected, c₁⟩ := by
  unfold readArgumentList readExpression
  rw [Descent.argumentList]
  cases Descent.expression limit c with
  | error f => rfl
  | ok w =>
      simp only [Within.forget_ok]
      split
      · simp only [Within.forget_ok]
      · cases Descent.argumentList limit w.cursor.next with
        | error f => rfl
        | ok w' => rfl
      · simp

theorem readChain_eq (p : Nat) (left : Expr) (c : Cursor) :
    c.readChain limit p left =
      match c.kind.operator? with
      | none => .ok (left, c)
      | some (op, q) =>
        if q < p then .ok (left, c)
        else
          match c.next.readPrimary limit with
          | .error f => .error f
          | .ok (right, c₁) =>
            if c₁.kind.bindsTighter q then
              match c₁.readChain limit (q + 1) right with
              | .error f => .error f
              | .ok (right', c₂) => c₂.readChain limit p (.binary c.location op left right')
            else c₁.readChain limit p (.binary c.location op left right) := by
  unfold readChain readPrimary
  rw [Descent.chain]
  split <;> rename_i h
  · simp only [h, Within.forget_ok]
  · simp only [h]
    split
    · rfl
    · cases Descent.primary limit c.next with
      | error f => rfl
      | ok w =>
          simp only [Within.forget_ok]
          split
          · cases Descent.chain limit (_ + 1) w.result w.cursor with
            | error f => rfl
            | ok w' =>
                simp only [Within.forget_ok]
                cases Descent.chain limit p _ w'.cursor with
                | error f => rfl
                | ok w'' => rfl
          · cases Descent.chain limit p _ w.cursor with
            | error f => rfl
            | ok w' => rfl

end Cursor

end Kaleidoscope
