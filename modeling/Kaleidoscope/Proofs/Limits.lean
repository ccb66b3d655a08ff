import Kaleidoscope.Proofs.Continuations

/-!
What the limit on nested expressions does. A reading that goes too deep fails as a whole, since no
reader goes on behind a failure. Apart from that the limit decides nothing: under a limit that is
less strict a reading either does the same, or has gone too deep under the stricter one
(`relaxes_readItem`).
-/

namespace Kaleidoscope

namespace Outcome

variable {α β : Type} {o o' : Outcome α}

/-- The reading failed on an expression for which there was no room. -/
def TooDeep (o : Outcome α) : Prop :=
  ∃ f, o = .error f ∧ f.cause = .nestingTooDeep

theorem TooDeep.andThen (h : o.TooDeep) (k : α → Cursor → Outcome β) : (o.andThen k).TooDeep := by
  obtain ⟨f, rfl, hf⟩ := h
  exact ⟨f, rfl, hf⟩

theorem TooDeep.map (h : o.TooDeep) (g : α → β) : (o.map g).TooDeep := by
  obtain ⟨f, rfl, hf⟩ := h
  exact ⟨f, rfl, hf⟩

theorem TooDeep.ascend (h : o.TooDeep) : o.ascend.TooDeep := by
  obtain ⟨f, rfl, hf⟩ := h
  exact ⟨f.ascend, rfl, hf⟩

@[simp] theorem tooDeep_error {f : Failure} :
    TooDeep (.error f : Outcome α) ↔ f.cause = .nestingTooDeep := by
  simp [TooDeep]

@[simp] theorem not_tooDeep_ok (a : α × Cursor) : ¬TooDeep (.ok a) := by
  simp [TooDeep]

@[simp] theorem tooDeep_map {g : α → β} : (o.map g).TooDeep ↔ o.TooDeep := by
  cases o <;> simp [Outcome.map]

@[simp] theorem tooDeep_ascend : o.ascend.TooDeep ↔ o.TooDeep := by
  cases o <;> simp [Outcome.ascend, Failure.ascend]

/-- The second reading is the first one again, unless that has gone too deep. -/
def Relaxes (o o' : Outcome α) : Prop :=
  o.TooDeep ∨ o = o'

namespace Relaxes

theorem refl (o : Outcome α) : o.Relaxes o :=
  .inr rfl

theorem map (h : o.Relaxes o') (g : α → β) : (o.map g).Relaxes (o'.map g) := by
  obtain h | rfl := h
  · exact .inl (h.map g)
  · exact .refl _

theorem ascend (h : o.Relaxes o') : o.ascend.Relaxes o'.ascend := by
  obtain h | rfl := h
  · exact .inl h.ascend
  · exact .refl _

theorem andThen {k k' : α → Cursor → Outcome β} (h : o.Relaxes o')
    (hk : ∀ a c, o = .ok (a, c) → (k a c).Relaxes (k' a c)) :
    (o.andThen k).Relaxes (o'.andThen k') := by
  obtain h | rfl := h
  · exact .inl (h.andThen k)
  · cases o with
    | error f => exact .refl _
    | ok a => exact hk a.1 a.2 rfl

end Relaxes

end Outcome

namespace Cursor

/-- Wherever the first limit leaves room, so does the second. -/
def LessStrict (limit limit' : Option Nat) : Prop :=
  ∀ c : Cursor, c.full limit = false → c.full limit' = false

theorem lessStrict_of_le {m m' : Nat} (h : m ≤ m') : LessStrict (some m) (some m') := by
  intro c hc
  simp only [full, Option.any_some, decide_eq_false_iff_not] at hc ⊢
  omega

/-- What each reader of expressions does under one limit, it does under the other. -/
structure ReadsRelaxed (limit limit' : Option Nat) (c : Cursor) : Prop where
  primary : (c.readPrimary limit).Relaxes (c.readPrimary limit')
  chain : ∀ p left, (c.readChain limit p left).Relaxes (c.readChain limit' p left)
  expression : (c.readExpression limit).Relaxes (c.readExpression limit')
  argumentList : (c.readArgumentList limit).Relaxes (c.readArgumentList limit')
  arguments : (c.readArguments limit).Relaxes (c.readArguments limit')

variable {limit limit' : Option Nat} {c : Cursor}

theorem relaxes_afterElement {α : Type} {cause : GrammarFault}
    {list list' : Cursor → Outcome (List α)} {a : α}
    (h : (list c.next).Relaxes (list' c.next)) :
    (c.afterElement cause list a).Relaxes (c.afterElement cause list' a) := by
  by_cases hk : c.kind = .char ')'
  · rw [afterElement_close hk, afterElement_close hk]
    exact .refl _
  · by_cases hc : c.kind = .char ','
    · rw [afterElement_comma hc, afterElement_comma hc]
      exact h.map _
    · rw [afterElement_other hk hc, afterElement_other hk hc]
      exact .refl _

theorem relaxes_afterName {l : Location} {name : String} (h : ReadsRelaxed limit limit' c.next) :
    (c.afterName limit l name).Relaxes (c.afterName limit' l name) := by
  by_cases hk : c.kind = .char '('
  · rw [afterName_call hk, afterName_call hk]
    exact h.arguments.map _
  · rw [afterName_reference hk, afterName_reference hk]
    exact .refl _

theorem relaxes_readPrimary_of
    (ih : ∀ d : Cursor, d.remaining < c.remaining → ReadsRelaxed limit limit' d) :
    (c.readPrimary limit).Relaxes (c.readPrimary limit') := by
  by_cases hs : c.kind.StartsExpression
  · have hlt : c.next.remaining < c.remaining :=
      remaining_next_lt (by rintro he; rw [he] at hs; exact hs)
    have hle := remaining_next_le c.next
    cases hk : c.kind with
    | number value =>
        rw [readPrimary_number hk, readPrimary_number hk]
        exact .refl _
    | identifier name =>
        rw [readPrimary_name hk, readPrimary_name hk]
        exact relaxes_afterName (ih _ (by omega))
    | char x =>
        obtain rfl : x = '(' := by rwa [hk] at hs
        rw [readPrimary_nested hk, readPrimary_nested hk]
        exact (ih _ hlt).expression.andThen fun _ _ _ => .refl _
    | _ => simp [hk, Token.Kind.StartsExpression] at hs
  · rw [readPrimary_other hs, readPrimary_other hs]
    exact .refl _

theorem relaxes_readChain_of {p : Nat} {left : Expr}
    (ih : ∀ d : Cursor, d.remaining < c.remaining → ReadsRelaxed limit limit' d) :
    (c.readChain limit p left).Relaxes (c.readChain limit' p left) := by
  by_cases hs : c.kind.StopsAt p
  · rw [readChain_of_stopsAt hs, readChain_of_stopsAt hs]
    exact .refl _
  · obtain ⟨⟨op, q⟩, hk, hp⟩ : ∃ o, c.kind.operator? = some o ∧ p ≤ o.2 := by
      simpa [Token.Kind.StopsAt] using hs
    have hlt := remaining_next_lt (ne_end_of_operator hk)
    rw [readChain_of_operator hk hp, readChain_of_operator hk hp]
    refine (ih _ hlt).primary.andThen fun right c₁ hright => ?_
    have hlt₁ := readPrimary_lt hright
    refine ((ih c₁ (by omega)).chain _ _).andThen fun right' c₂ hright' => ?_
    have hle₂ := readChain_le hright'
    exact (ih c₂ (by omega)).chain _ _

theorem relaxes_readExpression_of (hl : LessStrict limit limit')
    (hp : (c.descend.readPrimary limit).Relaxes (c.descend.readPrimary limit'))
    (ih : ∀ d : Cursor, d.remaining < c.remaining → ReadsRelaxed limit limit' d) :
    (c.readExpression limit).Relaxes (c.readExpression limit') := by
  cases hc : c.full limit with
  | true => exact .inl ⟨_, readExpression_full hc, rfl⟩
  | false =>
      rw [readExpression_room hc, readExpression_room (hl c hc)]
      refine (hp.andThen fun left c₁ hleft => ?_).ascend
      have hlt : c₁.remaining < c.descend.remaining := readPrimary_lt hleft
      exact (ih c₁ hlt).chain 0 left

theorem relaxes_readArgumentList_of
    (he : (c.readExpression limit).Relaxes (c.readExpression limit'))
    (ih : ∀ d : Cursor, d.remaining < c.remaining → ReadsRelaxed limit limit' d) :
    (c.readArgumentList limit).Relaxes (c.readArgumentList limit') := by
  rw [readArgumentList_andThen, readArgumentList_andThen]
  refine he.andThen fun e c₁ hread => ?_
  have hlt := readExpression_lt hread
  have hle := remaining_next_le c₁
  exact relaxes_afterElement (ih _ (by omega)).argumentList

theorem relaxes_readArguments_of
    (hl : (c.readArgumentList limit).Relaxes (c.readArgumentList limit')) :
    (c.readArguments limit).Relaxes (c.readArguments limit') := by
  by_cases hk : c.kind = .char ')'
  · rw [readArguments_none hk, readArguments_none hk]
    exact .refl _
  · rwa [readArguments_some hk, readArguments_some hk]

theorem readsRelaxed (hl : LessStrict limit limit') (c : Cursor) : ReadsRelaxed limit limit' c := by
  induction c using ahead_induction with
  | step c smaller =>
      -- one level deeper there are as many tokens ahead
      have inner : (c.descend.readPrimary limit).Relaxes (c.descend.readPrimary limit') :=
        relaxes_readPrimary_of smaller
      have expression := relaxes_readExpression_of hl inner smaller
      have list := relaxes_readArgumentList_of expression smaller
      exact
        { primary := relaxes_readPrimary_of smaller
          chain := fun _ _ => relaxes_readChain_of smaller
          expression := expression
          argumentList := list
          arguments := relaxes_readArguments_of list }

theorem relaxes_readDefinition (hl : LessStrict limit limit') (c : Cursor) :
    (c.readDefinition limit).Relaxes (c.readDefinition limit') := by
  by_cases hk : c.kind = .defWord
  · rw [readDefinition_word hk, readDefinition_word hk]
    refine (Outcome.Relaxes.refl _).andThen fun p c₁ _ => ?_
    exact (readsRelaxed hl c₁).expression.map _
  · rw [readDefinition_other hk, readDefinition_other hk]
    exact .refl _

theorem relaxes_readBare (hl : LessStrict limit limit') (c : Cursor) :
    (c.readBare limit).Relaxes (c.readBare limit') :=
  (readsRelaxed hl c).expression.map _

theorem relaxes_readItem (hl : LessStrict limit limit') (c : Cursor) :
    (c.readItem limit).Relaxes (c.readItem limit') := by
  have hbare := (relaxes_readBare hl c).map fun f => Item.statement (.expression f)
  cases hk : c.kind with
  | endOfInput =>
      rw [readItem_finish hk, readItem_finish hk]
      exact .refl _
  | defWord =>
      simp only [readItem, hk]
      exact (relaxes_readDefinition hl c).map _
  | externWord =>
      simp only [readItem, hk]
      exact .refl _
  | char x =>
      by_cases hx : x = ';'
      · subst hx
        rw [readItem_separator hk, readItem_separator hk]
        exact .refl _
      · simpa [readItem, hk, hx] using hbare
  | identifier name => simpa only [readItem, hk] using hbare
  | number value => simpa only [readItem, hk] using hbare

end Cursor

end Kaleidoscope
