import Kaleidoscope.Proofs.Grammar
import Kaleidoscope.Statement.Reading

/-!
The readers as sequences. Each is a reader followed by a continuation that looks at one token and
goes on, so that what holds of two readings in a row has to be shown only once, of `andThen`.
-/

namespace Kaleidoscope

namespace Outcome

variable {α β : Type}

/-- Go on behind a success. -/
def andThen (o : Outcome α) (k : α → Cursor → Outcome β) : Outcome β :=
  match o with
  | .error f => .error f
  | .ok (a, c) => k a c

@[simp] theorem andThen_error (f : Failure) (k : α → Cursor → Outcome β) :
    andThen (.error f) k = .error f := rfl

@[simp] theorem andThen_ok (a : α) (c : Cursor) (k : α → Cursor → Outcome β) :
    andThen (.ok (a, c)) k = k a c := rfl

theorem andThen_eq_ok_iff {o : Outcome α} {k : α → Cursor → Outcome β} {b : β} {c' : Cursor} :
    o.andThen k = .ok (b, c') ↔ ∃ a c, o = .ok (a, c) ∧ k a c = .ok (b, c') := by
  cases o with
  | error f => simp
  | ok a =>
      constructor
      · exact fun h => ⟨a.1, a.2, rfl, h⟩
      · rintro ⟨a', c, ha, h⟩
        obtain rfl := Except.ok.inj ha
        exact h

theorem ascend_eq_ok_iff {o : Outcome α} {a : α} {c' : Cursor} :
    o.ascend = .ok (a, c') ↔ ∃ c, o = .ok (a, c) ∧ c' = c.ascend := by
  cases o with
  | error f => simp [ascend]
  | ok b =>
      constructor
      · intro h
        obtain ⟨rfl, rfl⟩ := Prod.mk.inj (Except.ok.inj h)
        exact ⟨b.2, rfl, rfl⟩
      · rintro ⟨c, hb, rfl⟩
        obtain rfl := Except.ok.inj hb
        rfl

theorem Stays.andThen {c : Cursor} {o : Outcome α} {k : α → Cursor → Outcome β} (h : o.Stays c)
    (hk : ∀ a c, (k a c).Stays c) : (o.andThen k).Stays c := by
  cases o with
  | error f => exact h
  | ok a => exact (hk a.1 a.2).after h

end Outcome

/-- No operator that binds at least as tightly as the threshold. -/
def Token.Kind.StopsAt (p : Nat) (k : Kind) : Prop :=
  ∀ o, k.operator? = some o → o.2 < p

namespace Token.Kind

theorem stopsAt_zero {k : Kind} : k.StopsAt 0 ↔ k.operator? = none := by
  simp [StopsAt, Option.eq_none_iff_forall_ne_some]

theorem stopsAt_of_not_bindsTighter {k : Kind} {q : Nat} (h : ¬k.bindsTighter q = true) :
    k.StopsAt (q + 1) := by
  intro o ho
  simp only [bindsTighter, ho, Option.any_some, decide_eq_true_eq] at h
  omega

end Token.Kind

namespace Cursor

/-- Behind an element of a list in parentheses: the end of the list, or the other elements. -/
def afterElement {α : Type} (cause : GrammarFault) (list : Cursor → Outcome (List α)) (a : α)
    (c : Cursor) : Outcome (List α) :=
  match c.kind with
  | .char ')' => .ok ([a], c.next)
  | .char ',' => (list c.next).map (a :: ·)
  | _ => .error ⟨cause, c⟩

variable (limit : Option Nat)

/-- Behind a name: a call, or the name alone. -/
def afterName (l : Location) (name : String) (c : Cursor) : Outcome Expr :=
  match c.kind with
  | .char '(' => (c.next.readArguments limit).map (.call l name ·)
  | _ => .ok (.reference l name, c)

/-- Behind an expression in parentheses. -/
def afterNested (e : Expr) (c : Cursor) : Outcome Expr :=
  match c.kind with
  | .char ')' => .ok (e, c.next)
  | _ => .error ⟨.closingExpected, c⟩

/-- Behind a right operand, which takes what binds tighter than its operator. -/
def afterOperand (p q : Nat) (apply : Expr → Expr) (right : Expr) (c : Cursor) : Outcome Expr :=
  (c.readChain limit (q + 1) right).andThen fun right c => c.readChain limit p (apply right)

/-- One name, as a list of parameters has it. -/
def readName (c : Cursor) : Outcome String :=
  match c.kind with
  | .identifier name => .ok (name, c.next)
  | _ => .error ⟨.parameterNameExpected, c⟩

/-- Behind the parenthesis that opens the parameters. -/
def afterOpening (l : Location) (name : String) (c : Cursor) : Outcome Prototype :=
  match c.kind with
  | .char ')' => .ok (⟨l, name, []⟩, c.next)
  | _ => c.readParameters.map (⟨l, name, ·⟩)

def afterFunctionName (l : Location) (name : String) (c : Cursor) : Outcome Prototype :=
  match c.kind with
  | .char '(' => c.next.afterOpening l name
  | _ => .error ⟨.parametersExpected, c⟩

variable {limit} {c : Cursor}

section

variable {α : Type} {cause : GrammarFault} {list : Cursor → Outcome (List α)} {a : α}

theorem afterElement_close (h : c.kind = .char ')') :
    c.afterElement cause list a = .ok ([a], c.next) := by
  simp only [afterElement, h]

theorem afterElement_comma (h : c.kind = .char ',') :
    c.afterElement cause list a = (list c.next).map (a :: ·) := by
  simp only [afterElement, h]

theorem afterElement_other (h : c.kind ≠ .char ')') (h' : c.kind ≠ .char ',') :
    c.afterElement cause list a = .error ⟨cause, c⟩ := by
  rw [afterElement]
  split
  · contradiction
  · contradiction
  · rfl

theorem stays_afterElement (hl : ∀ c, (list c).Stays c) (a : α) (c : Cursor) :
    (c.afterElement cause list a).Stays c := by
  rw [afterElement]
  split <;> rename_i h
  · exact reachesWithin_next (by simp [h])
  · exact (hl _).map.after (reachesWithin_next (by simp [h]))
  · exact .refl c

end

/-! ### Expressions -/

theorem afterName_call {l : Location} {name : String} (h : c.kind = .char '(') :
    c.afterName limit l name = (c.next.readArguments limit).map (.call l name ·) := by
  simp only [afterName, h]

theorem afterName_reference {l : Location} {name : String} (h : c.kind ≠ .char '(') :
    c.afterName limit l name = .ok (.reference l name, c) := by
  rw [afterName]
  split
  · contradiction
  · rfl

theorem afterNested_close {e : Expr} (h : c.kind = .char ')') :
    c.afterNested e = .ok (e, c.next) := by
  simp only [afterNested, h]

theorem afterNested_other {e : Expr} (h : c.kind ≠ .char ')') :
    c.afterNested e = .error ⟨.closingExpected, c⟩ := by
  rw [afterNested]
  split
  · contradiction
  · rfl

theorem readExpression_full (h : c.full limit = true) :
    c.readExpression limit = .error ⟨.nestingTooDeep, c⟩ := by
  rw [readExpression_eq, if_pos h]

theorem readExpression_room (h : c.full limit = false) :
    c.readExpression limit =
      ((c.descend.readPrimary limit).andThen fun left c => c.readChain limit 0 left).ascend := by
  rw [readExpression_eq, if_neg (by simp [h])]
  cases c.descend.readPrimary limit <;> rfl

theorem readPrimary_number {value : Binary64} (h : c.kind = .number value) :
    c.readPrimary limit = .ok (.number c.location value, c.next) := by
  simp only [readPrimary_eq, h]

theorem readPrimary_name {name : String} (h : c.kind = .identifier name) :
    c.readPrimary limit = c.next.afterName limit c.location name := by
  simp only [readPrimary_eq, h]
  split <;> rename_i hk
  · rw [afterName_call hk]
    cases c.next.next.readArguments limit <;> rfl
  · rw [afterName_reference hk]

theorem readPrimary_nested (h : c.kind = .char '(') : c.readPrimary limit =
    (c.next.readExpression limit).andThen fun e c => c.afterNested e := by
  simp only [readPrimary_eq, h]
  cases c.next.readExpression limit <;> rfl

theorem readPrimary_other (h : ¬c.kind.StartsExpression) :
    c.readPrimary limit = .error ⟨.expressionExpected, c⟩ := by
  rw [readPrimary_eq]
  split <;> simp_all [Token.Kind.StartsExpression]

theorem readArguments_none (h : c.kind = .char ')') :
    c.readArguments limit = .ok ([], c.next) := by
  simp only [readArguments_eq, h]

theorem readArguments_some (h : c.kind ≠ .char ')') :
    c.readArguments limit = c.readArgumentList limit := by
  rw [readArguments_eq]
  split
  · contradiction
  · rfl

theorem readArgumentList_andThen (limit : Option Nat) (c : Cursor) :
    c.readArgumentList limit = (c.readExpression limit).andThen
      (afterElement .argumentEndExpected (readArgumentList limit)) := by
  rw [readArgumentList_eq]
  cases c.readExpression limit with
  | error f => rfl
  | ok a =>
      obtain ⟨e, c₁⟩ := a
      rw [Outcome.andThen_ok]
      simp only
      split <;> rename_i hk
      · rw [afterElement_close hk]
      · rw [afterElement_comma hk]
        cases c₁.next.readArgumentList limit <;> rfl
      · rw [afterElement_other (by assumption) hk]

theorem readChain_of_stopsAt {p : Nat} {left : Expr} (h : c.kind.StopsAt p) :
    c.readChain limit p left = .ok (left, c) := by
  rw [readChain_eq]
  split <;> rename_i hk
  · rfl
  · rw [if_pos (h _ hk)]

/-- An operator with its right operand, which takes all that binds tighter, and then the rest. The
look ahead saves a call where nothing binds tighter, but such a call would not move. -/
theorem readChain_of_operator {p q : Nat} {op : Char} {left : Expr}
    (h : c.kind.operator? = some (op, q)) (hp : p ≤ q) : c.readChain limit p left =
      (c.next.readPrimary limit).andThen
        (afterOperand limit p q (.binary c.location op left)) := by
  rw [readChain_eq, h]
  simp only [if_neg (Nat.not_lt.2 hp)]
  cases c.next.readPrimary limit with
  | error f => rfl
  | ok a =>
      obtain ⟨right, c₁⟩ := a
      rw [Outcome.andThen_ok, afterOperand]
      simp only
      split <;> rename_i ht
      · cases c₁.readChain limit (q + 1) right <;> rfl
      · rw [readChain_of_stopsAt (Token.Kind.stopsAt_of_not_bindsTighter ht)]
        rfl

theorem stays_afterName (l : Location) (name : String) (c : Cursor) :
    (c.afterName limit l name).Stays c := by
  rw [afterName]
  split <;> rename_i h
  · exact (stays_readArguments limit _).map.after (reachesWithin_next (by simp [h]))
  · exact .refl c

theorem stays_afterNested (e : Expr) (c : Cursor) : (c.afterNested e).Stays c := by
  rw [afterNested]
  split <;> rename_i h
  · exact reachesWithin_next (by simp [h])
  · exact .refl c

theorem stays_afterOperand (p q : Nat) (apply : Expr → Expr) (right : Expr) (c : Cursor) :
    (c.afterOperand limit p q apply right).Stays c := by
  exact (stays_readChain limit c _ right).andThen fun _ c => stays_readChain limit c _ _

/-! ### Statements -/

theorem readName_name {name : String} (h : c.kind = .identifier name) :
    c.readName = .ok (name, c.next) := by
  simp only [readName, h]

theorem readName_other (h : ∀ name, c.kind ≠ .identifier name) :
    c.readName = .error ⟨.parameterNameExpected, c⟩ := by
  rw [readName]
  split <;> simp_all

theorem afterOpening_close {l : Location} {name : String} (h : c.kind = .char ')') :
    c.afterOpening l name = .ok (⟨l, name, []⟩, c.next) := by
  simp only [afterOpening, h]

theorem afterOpening_some {l : Location} {name : String} (h : c.kind ≠ .char ')') :
    c.afterOpening l name = c.readParameters.map (⟨l, name, ·⟩) := by
  rw [afterOpening]
  split
  · contradiction
  · rfl

theorem afterFunctionName_open {l : Location} {name : String} (h : c.kind = .char '(') :
    c.afterFunctionName l name = c.next.afterOpening l name := by
  simp only [afterFunctionName, h]

theorem afterFunctionName_other {l : Location} {name : String} (h : c.kind ≠ .char '(') :
    c.afterFunctionName l name = .error ⟨.parametersExpected, c⟩ := by
  rw [afterFunctionName]
  split
  · contradiction
  · rfl

theorem stays_afterOpening (l : Location) (name : String) (c : Cursor) :
    (c.afterOpening l name).Stays c := by
  rw [afterOpening]
  split <;> rename_i h
  · exact reachesWithin_next (by simp [h])
  · exact (stays_readParameters c).map

theorem stays_afterFunctionName (l : Location) (name : String) (c : Cursor) :
    (c.afterFunctionName l name).Stays c := by
  rw [afterFunctionName]
  split <;> rename_i h
  · exact (stays_afterOpening l name _).after (reachesWithin_next (by simp [h]))
  · exact .refl c

theorem readParameters_andThen (c : Cursor) : c.readParameters =
    c.readName.andThen (afterElement .parameterEndExpected readParameters) := by
  rw [readParameters]
  split <;> rename_i hk
  · rw [readName_name hk]
    rfl
  · rw [readName_other hk]
    rfl

theorem readPrototype_name {name : String} (h : c.kind = .identifier name) :
    c.readPrototype = c.next.afterFunctionName c.location name := by
  simp only [readPrototype, h]
  rfl

theorem readPrototype_other (h : ∀ name, c.kind ≠ .identifier name) :
    c.readPrototype = .error ⟨.functionNameExpected, c⟩ := by
  rw [readPrototype]
  split <;> simp_all

theorem readDefinition_word (h : c.kind = .defWord) : c.readDefinition limit =
    c.next.readPrototype.andThen fun p c => (c.readExpression limit).map (⟨p, ·⟩) := by
  simp only [readDefinition, h]
  cases c.next.readPrototype <;> rfl

theorem readDefinition_other (h : c.kind ≠ .defWord) :
    c.readDefinition limit = .error ⟨.defExpected, c⟩ := by
  rw [readDefinition]
  split <;> simp_all

theorem readExtern_word (h : c.kind = .externWord) : c.readExtern = c.next.readPrototype := by
  simp only [readExtern, h]

theorem readExtern_other (h : c.kind ≠ .externWord) :
    c.readExtern = .error ⟨.externExpected, c⟩ := by
  rw [readExtern]
  split <;> simp_all

end Cursor

end Kaleidoscope
