import Kaleidoscope.Expr.Reading

/-!
How far the readers of expressions move. Succeeding or failing, each only passes tokens that are
neither an end of input nor `;`, and gives the depth back (`Outcome.Stays`); a success of any but
`readChain` has passed at least one token.
-/

namespace Kaleidoscope

/-- Wherever a reading from `c` ended, the cursor was moved there over tokens. -/
def Outcome.Moves {α : Type} (c : Cursor) : Outcome α → Prop
  | .error f => c.Reaches f.cursor
  | .ok (_, c') => c.Reaches c'

/-- Wherever a reading from `c` ended, the cursor was moved there over tokens of one statement. -/
def Outcome.Stays {α : Type} (c : Cursor) : Outcome α → Prop
  | .error f => c.ReachesWithin f.cursor
  | .ok (_, c') => c.ReachesWithin c'

namespace Outcome.Stays

variable {α : Type} {c c₁ : Cursor} {o : Outcome α}

theorem moves (h : o.Stays c) : o.Moves c := by
  cases o with
  | error f => exact Cursor.ReachesWithin.reaches h
  | ok a => exact Cursor.ReachesWithin.reaches h

theorem after (h : o.Stays c₁) (r : c.ReachesWithin c₁) : o.Stays c := by
  cases o with
  | error f => exact r.trans h
  | ok a => exact r.trans h

theorem ascend (h : o.Stays c.descend) : o.ascend.Stays c := by
  cases o with
  | error f => exact Cursor.ReachesWithin.ascend h
  | ok a => exact Cursor.ReachesWithin.ascend h

end Outcome.Stays

theorem Within.forget_lt {bound : Nat} {α : Type} {r : Except Failure (Within bound α)}
    {a : α} {c : Cursor} (h : Within.forget r = .ok (a, c)) : c.remaining < bound := by
  cases r with
  | error f => simp at h
  | ok w =>
      simp only [Within.forget_ok, Except.ok.injEq, Prod.mk.injEq] at h
      exact h.2 ▸ w.lt

namespace Cursor

variable {limit : Option Nat} {c c' : Cursor}

theorem readExpression_lt {e : Expr} (h : c.readExpression limit = .ok (e, c')) :
    c'.remaining < c.remaining :=
  Within.forget_lt h

theorem readPrimary_lt {e : Expr} (h : c.readPrimary limit = .ok (e, c')) :
    c'.remaining < c.remaining :=
  Within.forget_lt h

theorem readChain_le {p : Nat} {left e : Expr} (h : c.readChain limit p left = .ok (e, c')) :
    c'.remaining ≤ c.remaining :=
  Nat.le_of_lt_succ (Within.forget_lt h)

theorem ne_end_of_operator {k : Token.Kind} {o : Char × Nat} (h : k.operator? = some o) :
    k ≠ .endOfInput := by
  rintro rfl
  simp [Token.Kind.operator?] at h

theorem ne_separator_of_operator {k : Token.Kind} {o : Char × Nat} (h : k.operator? = some o) :
    k ≠ .char ';' := by
  rintro rfl
  simp [Token.Kind.operator?, precedence?] at h

theorem stays_readPrimary_of
    (he : ∀ d : Cursor, d.remaining < c.remaining → (d.readExpression limit).Stays d)
    (ha : ∀ d : Cursor, d.remaining < c.remaining → (d.readArguments limit).Stays d) :
    (c.readPrimary limit).Stays c := by
  rw [readPrimary_eq]
  split <;> rename_i hk
  · exact reachesWithin_next (by simp [hk])
  · have h₁ := remaining_next_lt (c := c) (by simp [hk])
    have h₂ := remaining_next_le c.next
    have r₁ : c.ReachesWithin c.next := reachesWithin_next (by simp [hk])
    split <;> rename_i hk'
    · have r := r₁.trans (reachesWithin_next (by simp [hk']))
      have := ha c.next.next (by omega)
      split <;> rename_i h <;> rw [h] at this
      · exact r.trans this
      · exact r.trans this
    · exact r₁
  · have r₁ : c.ReachesWithin c.next := reachesWithin_next (by simp [hk])
    have := he c.next (remaining_next_lt (by simp [hk]))
    split <;> rename_i h <;> rw [h] at this
    · exact r₁.trans this
    · split <;> rename_i hk'
      · exact (r₁.trans this).trans (reachesWithin_next (by simp [hk']))
      · exact r₁.trans this
  · exact .refl c

theorem stays_readChain_of
    (hp : ∀ d : Cursor, d.remaining < c.remaining → (d.readPrimary limit).Stays d)
    (hc : ∀ (d : Cursor) (p : Nat) (left : Expr), d.remaining < c.remaining →
      (d.readChain limit p left).Stays d) (p : Nat) (left : Expr) :
    (c.readChain limit p left).Stays c := by
  rw [readChain_eq]
  split
  · exact .refl c
  · rename_i op q hk
    have h₁ := remaining_next_lt (ne_end_of_operator hk)
    split
    · exact .refl c
    · have r₁ : c.ReachesWithin c.next := reachesWithin_next (ne_separator_of_operator hk)
      have r := hp c.next h₁
      split <;> rename_i h <;> rw [h] at r
      · exact r₁.trans r
      · rename_i right c₁
        have h₂ := readPrimary_lt h
        have r₂ : c.ReachesWithin c₁ := r₁.trans r
        split
        · have r := hc c₁ (q + 1) right (by omega)
          split <;> rename_i h <;> rw [h] at r
          · exact r₂.trans r
          · rename_i right' c₂
            have h₃ := readChain_le h
            exact (hc c₂ p (.binary c.location op left right') (by omega)).after (r₂.trans r)
        · exact (hc c₁ p (.binary c.location op left right) (by omega)).after r₂

theorem stays_readExpression_of (hp : (c.descend.readPrimary limit).Stays c.descend)
    (hc : ∀ (d : Cursor) (left : Expr), d.remaining < c.remaining →
      (d.readChain limit 0 left).Stays d) :
    (c.readExpression limit).Stays c := by
  rw [readExpression_eq]
  split
  · exact .refl c
  · refine Outcome.Stays.ascend ?_
    split <;> rename_i h <;> rw [h] at hp
    · exact hp
    · rename_i left c₁
      exact (hc c₁ left (by simpa using readPrimary_lt h)).after hp

theorem stays_readArgumentList_of (he : (c.readExpression limit).Stays c)
    (hl : ∀ d : Cursor, d.remaining < c.remaining → (d.readArgumentList limit).Stays d) :
    (c.readArgumentList limit).Stays c := by
  rw [readArgumentList_eq]
  split <;> rename_i h <;> rw [h] at he
  · exact he
  · rename_i e c₁
    have h₁ := readExpression_lt h
    have h₂ := remaining_next_le c₁
    split <;> rename_i hk
    · exact ReachesWithin.trans he (reachesWithin_next (by simp [hk]))
    · have r : c.ReachesWithin c₁.next :=
        ReachesWithin.trans he (reachesWithin_next (by simp [hk]))
      have := hl c₁.next (by omega)
      split <;> rename_i h <;> rw [h] at this <;> exact r.trans this
    · exact he

theorem stays_readArguments_of (hl : (c.readArgumentList limit).Stays c) :
    (c.readArguments limit).Stays c := by
  rw [readArguments_eq]
  split <;> rename_i hk
  · exact reachesWithin_next (by simp [hk])
  · exact hl

/-- All readers of expressions stay within the statement. -/
theorem readers_stay (limit : Option Nat) (n : Nat) : ∀ c : Cursor, c.remaining < n →
    (c.readPrimary limit).Stays c ∧
    (∀ p left, (c.readChain limit p left).Stays c) ∧
    (c.readExpression limit).Stays c ∧
    (c.readArgumentList limit).Stays c ∧
    (c.readArguments limit).Stays c := by
  induction n with
  | zero => exact fun _ h => absurd h (Nat.not_lt_zero _)
  | succ n ih =>
      have primary : ∀ c : Cursor, c.remaining < n + 1 → (c.readPrimary limit).Stays c :=
        fun c h => stays_readPrimary_of
          (fun d hd => (ih d (by omega)).2.2.1) (fun d hd => (ih d (by omega)).2.2.2.2)
      have chain : ∀ c : Cursor, c.remaining < n + 1 → ∀ p left,
          (c.readChain limit p left).Stays c :=
        fun c h => stays_readChain_of
          (fun d hd => (ih d (by omega)).1) (fun d p left hd => (ih d (by omega)).2.1 p left)
      intro c h
      have expression : (c.readExpression limit).Stays c :=
        stays_readExpression_of (primary _ h) (fun d left hd => chain d (by omega) 0 left)
      have list : (c.readArgumentList limit).Stays c :=
        stays_readArgumentList_of expression (fun d hd => (ih d (by omega)).2.2.2.1)
      exact ⟨primary c h, chain c h, expression, list, stays_readArguments_of list⟩

variable (limit c)

theorem stays_readPrimary : (c.readPrimary limit).Stays c :=
  (readers_stay limit _ c (Nat.lt_succ_self _)).1

theorem stays_readChain (p : Nat) (left : Expr) : (c.readChain limit p left).Stays c :=
  (readers_stay limit _ c (Nat.lt_succ_self _)).2.1 p left

theorem stays_readExpression : (c.readExpression limit).Stays c :=
  (readers_stay limit _ c (Nat.lt_succ_self _)).2.2.1

theorem stays_readArgumentList : (c.readArgumentList limit).Stays c :=
  (readers_stay limit _ c (Nat.lt_succ_self _)).2.2.2.1

theorem stays_readArguments : (c.readArguments limit).Stays c :=
  (readers_stay limit _ c (Nat.lt_succ_self _)).2.2.2.2

end Cursor

end Kaleidoscope
