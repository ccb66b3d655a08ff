import Kaleidoscope.Proofs.Likeness

/-!
Readings depend on nothing behind the token that they stop on, and treat locations, names and
numbers as data. Where two cursors are at the same place of a window, each reader does the same from
both, as far as the window goes (`tracks_readItem`). In the expressions the readers call one
another, so their statements are proved together, for all cursors with fewer tokens ahead first.
-/

namespace Kaleidoscope

theorem Token.Kind.Like.startsExpression_iff {R : Likeness} {k k' : Kind} (h : k.Like R k') :
    k'.StartsExpression ↔ k.StartsExpression := by
  cases h <;> exact .rfl

namespace Cursor

/-- What each reader of expressions does from one cursor, it does from the other. -/
structure ReadsAlike (limit : Option Nat) (w : Window) (c d : Cursor) : Prop where
  primary : (c.readPrimary limit).Tracks w (Expr.Like w.toLikeness) (d.readPrimary limit)
  chain : ∀ p left left', left.Like w.toLikeness left' →
    (c.readChain limit p left).Tracks w (Expr.Like w.toLikeness) (d.readChain limit p left')
  expression : (c.readExpression limit).Tracks w (Expr.Like w.toLikeness) (d.readExpression limit)
  argumentList : (c.readArgumentList limit).Tracks w (List.Forall₂ (Expr.Like w.toLikeness))
    (d.readArgumentList limit)
  arguments : (c.readArguments limit).Tracks w (List.Forall₂ (Expr.Like w.toLikeness))
    (d.readArguments limit)

variable {limit : Option Nat} {w : Window} {c d : Cursor}

theorem tracks_afterElement {α : Type} {V : α → α → Prop} {cause : GrammarFault}
    {list : Cursor → Outcome (List α)} {a a' : α} (h : c.Tracks w d) (ha : V a a')
    (hs : ∀ c, (list c).Stays c)
    (ih : c.next.Tracks w d.next → (list c.next).Tracks w (List.Forall₂ V) (list d.next)) :
    (c.afterElement cause list a).Tracks w (List.Forall₂ V) (d.afterElement cause list a') := by
  by_cases hk : c.kind = .char ')'
  · rw [afterElement_close hk, afterElement_close (h.kind.char_iff.2 hk)]
    exact fun hin => .ok (.cons ha .nil) (h.next hin)
  · have hk' := h.ne_char hk
    by_cases hc : c.kind = .char ','
    · rw [afterElement_comma hc, afterElement_comma (h.kind.char_iff.2 hc)]
      refine h.andNext (hs _).map fun hn => ?_
      exact (ih hn).map fun as as' has => .cons ha has
    · have hc' := h.ne_char hc
      rw [afterElement_other hk hc, afterElement_other hk' hc']
      exact fun _ => .error rfl h

/-! ### Expressions -/

theorem tracks_afterName {l l' : Location} {x y : String} (h : c.Tracks w d)
    (hl : w.location l l') (hx : w.name x y)
    (ih : c.next.Tracks w d.next → ReadsAlike limit w c.next d.next) :
    (c.afterName limit l x).Tracks w (Expr.Like w.toLikeness) (d.afterName limit l' y) := by
  by_cases hk : c.kind = .char '('
  · rw [afterName_call hk, afterName_call (h.kind.char_iff.2 hk)]
    refine h.andNext (stays_readArguments limit _).map fun hn => ?_
    exact (ih hn).arguments.map fun es es' he => .call_of_forall₂ hl hx he
  · have hk' := h.ne_char hk
    rw [afterName_reference hk, afterName_reference hk']
    exact fun _ => .ok (.reference hl hx) h

theorem tracks_afterNested {e e' : Expr} (h : c.Tracks w d) (he : e.Like w.toLikeness e') :
    (c.afterNested e).Tracks w (Expr.Like w.toLikeness) (d.afterNested e') := by
  by_cases hk : c.kind = .char ')'
  · rw [afterNested_close hk, afterNested_close (h.kind.char_iff.2 hk)]
    exact fun hin => .ok he (h.next hin)
  · have hk' := h.ne_char hk
    rw [afterNested_other hk, afterNested_other hk']
    exact fun _ => .error rfl h

theorem tracks_afterOperand {p q : Nat} {apply apply' : Expr → Expr} {right right' : Expr}
    (h : c.Tracks w d) (hr : right.Like w.toLikeness right')
    (ha : ∀ e e', e.Like w.toLikeness e' → (apply e).Like w.toLikeness (apply' e'))
    (ih : ∀ c' d', c'.remaining ≤ c.remaining → c'.Tracks w d' → ReadsAlike limit w c' d') :
    (c.afterOperand limit p q apply right).Tracks w (Expr.Like w.toLikeness)
      (d.afterOperand limit p q apply' right') := by
  refine ((ih c d (Nat.le_refl _) h).chain _ _ _ hr).andThen
    (fun e c => stays_readChain limit c _ _) ?_
  intro e e' c₁ d₁ hread he h₁
  exact (ih c₁ d₁ (readChain_le hread) h₁).chain p _ _ (ha e e' he)

theorem tracks_readPrimary_of (h : c.Tracks w d)
    (ih : ∀ c' d', c'.remaining < c.remaining → c'.Tracks w d' → ReadsAlike limit w c' d') :
    (c.readPrimary limit).Tracks w (Expr.Like w.toLikeness) (d.readPrimary limit) := by
  have hk := h.kind
  by_cases hs : c.kind.StartsExpression
  · generalize hc : c.kind = k at hk hs
    generalize hd : d.kind = k' at hk
    have hlt : c.next.remaining < c.remaining :=
      remaining_next_lt (by rintro he; rw [← hc, he] at hs; exact hs)
    have hle := remaining_next_le c.next
    cases hk with
    | number hv =>
        rw [readPrimary_number hc, readPrimary_number hd]
        exact fun hin => .ok (.number h.location hv) (h.next hin)
    | identifier hx =>
        rw [readPrimary_name hc, readPrimary_name hd]
        refine h.andNext (stays_afterName _ _ _) fun hn => ?_
        exact tracks_afterName hn h.location hx (ih _ _ (Nat.lt_of_le_of_lt hle hlt))
    | char x =>
        obtain rfl : x = '(' := hs
        rw [readPrimary_nested hc, readPrimary_nested hd]
        refine h.andNext ((stays_readExpression limit _).andThen stays_afterNested) fun hn => ?_
        refine (ih _ _ hlt hn).expression.andThen stays_afterNested ?_
        exact fun _ _ _ _ _ he h₁ => tracks_afterNested h₁ he
    | endOfInput => contradiction
    | defWord => contradiction
    | externWord => contradiction
  · rw [readPrimary_other hs, readPrimary_other (fun hd => hs (hk.startsExpression_iff.1 hd))]
    exact fun _ => .error rfl h

theorem tracks_readChain_of {p : Nat} {left left' : Expr} (h : c.Tracks w d)
    (hl : left.Like w.toLikeness left')
    (ih : ∀ c' d', c'.remaining < c.remaining → c'.Tracks w d' → ReadsAlike limit w c' d') :
    (c.readChain limit p left).Tracks w (Expr.Like w.toLikeness) (d.readChain limit p left') := by
  have hop := h.kind.operator_eq
  by_cases hs : c.kind.StopsAt p
  · have hs' : d.kind.StopsAt p := by rwa [Token.Kind.StopsAt, hop]
    rw [readChain_of_stopsAt hs, readChain_of_stopsAt hs']
    exact fun _ => .ok hl h
  · obtain ⟨⟨op, q⟩, hk, hp⟩ : ∃ o, c.kind.operator? = some o ∧ p ≤ o.2 := by
      simpa [Token.Kind.StopsAt] using hs
    have hlt := remaining_next_lt (ne_end_of_operator hk)
    rw [readChain_of_operator hk hp, readChain_of_operator (hop.trans hk) hp]
    refine h.andNext ((stays_readPrimary limit _).andThen (stays_afterOperand _ _ _)) fun hn => ?_
    refine (ih _ _ hlt hn).primary.andThen (stays_afterOperand _ _ _) ?_
    intro right right' c₁ d₁ hread hr h₁
    have hlt₁ := readPrimary_lt hread
    refine tracks_afterOperand h₁ hr (fun e e' he => .binary h.location hl he) ?_
    exact fun c' d' hle h' => ih c' d' (by omega) h'

theorem tracks_readExpression_of (h : c.Tracks w d)
    (hp : (c.descend.readPrimary limit).Tracks w (Expr.Like w.toLikeness)
      (d.descend.readPrimary limit))
    (ih : ∀ c' d', c'.remaining < c.remaining → c'.Tracks w d' → ReadsAlike limit w c' d') :
    (c.readExpression limit).Tracks w (Expr.Like w.toLikeness) (d.readExpression limit) := by
  have hf : d.full limit = c.full limit := by
    rw [full, full, h.depth]
  cases hc : c.full limit with
  | true =>
      rw [readExpression_full hc, readExpression_full (hf.trans hc)]
      exact fun _ => .error rfl h
  | false =>
      rw [readExpression_room hc, readExpression_room (hf.trans hc)]
      refine (hp.andThen (fun left c => stays_readChain limit c 0 left) ?_).ascend
      intro left left' c₁ d₁ hread hl h₁
      have hlt : c₁.remaining < c.descend.remaining := readPrimary_lt hread
      exact (ih c₁ d₁ hlt h₁).chain 0 left left' hl

theorem tracks_readArgumentList_of
    (he : (c.readExpression limit).Tracks w (Expr.Like w.toLikeness) (d.readExpression limit))
    (ih : ∀ c' d', c'.remaining < c.remaining → c'.Tracks w d' → ReadsAlike limit w c' d') :
    (c.readArgumentList limit).Tracks w (List.Forall₂ (Expr.Like w.toLikeness))
      (d.readArgumentList limit) := by
  rw [readArgumentList_andThen, readArgumentList_andThen]
  refine he.andThen (stays_afterElement (stays_readArgumentList limit)) ?_
  intro e e' c₁ d₁ hread hl h₁
  have hlt := readExpression_lt hread
  have hle := remaining_next_le c₁
  refine tracks_afterElement h₁ hl (stays_readArgumentList limit) fun hn => ?_
  exact (ih _ _ (by omega) hn).argumentList

theorem tracks_readArguments_of (h : c.Tracks w d)
    (hl : (c.readArgumentList limit).Tracks w (List.Forall₂ (Expr.Like w.toLikeness))
      (d.readArgumentList limit)) :
    (c.readArguments limit).Tracks w (List.Forall₂ (Expr.Like w.toLikeness))
      (d.readArguments limit) := by
  by_cases hk : c.kind = .char ')'
  · rw [readArguments_none hk, readArguments_none (h.kind.char_iff.2 hk)]
    exact fun hin => .ok .nil (h.next hin)
  · have hk' := h.ne_char hk
    rwa [readArguments_some hk, readArguments_some hk']

theorem readsAlike (h : c.Tracks w d) : ReadsAlike limit w c d := by
  induction c using ahead_induction generalizing d with
  | step c ih =>
      have smaller (c' d' : Cursor) (hlt : c'.remaining < c.remaining) (h' : c'.Tracks w d') :
          ReadsAlike limit w c' d' := ih c' hlt h'
      -- one level deeper there are as many tokens ahead
      have inner := tracks_readPrimary_of h.descend smaller
      have expression := tracks_readExpression_of h inner smaller
      have list := tracks_readArgumentList_of expression smaller
      exact
        { primary := tracks_readPrimary_of h smaller
          chain := fun p left left' hl => tracks_readChain_of h hl smaller
          expression := expression
          argumentList := list
          arguments := tracks_readArguments_of h list }

/-! ### Statements -/

theorem tracks_readParameters (h : c.Tracks w d) :
    c.readParameters.Tracks w (List.Forall₂ w.name) d.readParameters := by
  induction c using ahead_induction generalizing d with
  | step c ih =>
      have hk := h.kind
      generalize hc : c.kind = k at hk
      generalize hd : d.kind = k' at hk
      rw [readParameters_andThen, readParameters_andThen]
      cases hk with
      | identifier hx =>
          have hlt := remaining_next_lt (c := c) (by simp [hc])
          have hle := remaining_next_le c.next
          rw [readName_name hc, readName_name hd]
          refine h.andNext (stays_afterElement stays_readParameters _ _) fun hn => ?_
          refine tracks_afterElement hn hx stays_readParameters fun hn' => ?_
          exact ih _ (by omega) hn'
      | _ =>
          rw [readName_other (by simp [hc]), readName_other (by simp [hd])]
          exact fun _ => .error rfl h

theorem tracks_afterOpening {l l' : Location} {x y : String} (h : c.Tracks w d)
    (hl : w.location l l') (hx : w.name x y) :
    (c.afterOpening l x).Tracks w (Prototype.Like w.toLikeness) (d.afterOpening l' y) := by
  by_cases hk : c.kind = .char ')'
  · rw [afterOpening_close hk, afterOpening_close (h.kind.char_iff.2 hk)]
    exact fun hin => .ok ⟨hl, hx, .nil⟩ (h.next hin)
  · have hk' := h.ne_char hk
    rw [afterOpening_some hk, afterOpening_some hk']
    exact (tracks_readParameters h).map fun xs ys hxy => ⟨hl, hx, hxy⟩

theorem tracks_afterFunctionName {l l' : Location} {x y : String} (h : c.Tracks w d)
    (hl : w.location l l') (hx : w.name x y) :
    (c.afterFunctionName l x).Tracks w (Prototype.Like w.toLikeness)
      (d.afterFunctionName l' y) := by
  by_cases hk : c.kind = .char '('
  · rw [afterFunctionName_open hk, afterFunctionName_open (h.kind.char_iff.2 hk)]
    exact h.andNext (stays_afterOpening _ _ _) fun hn => tracks_afterOpening hn hl hx
  · have hk' := h.ne_char hk
    rw [afterFunctionName_other hk, afterFunctionName_other hk']
    exact fun _ => .error rfl h

theorem tracks_readPrototype (h : c.Tracks w d) :
    c.readPrototype.Tracks w (Prototype.Like w.toLikeness) d.readPrototype := by
  have hk := h.kind
  generalize hc : c.kind = k at hk
  generalize hd : d.kind = k' at hk
  cases hk with
  | identifier hx =>
      rw [readPrototype_name hc, readPrototype_name hd]
      refine h.andNext (stays_afterFunctionName _ _ _) fun hn => ?_
      exact tracks_afterFunctionName hn h.location hx
  | _ =>
      rw [readPrototype_other (by simp [hc]), readPrototype_other (by simp [hd])]
      exact fun _ => .error rfl h

theorem tracks_readDefinition (h : c.Tracks w d) :
    (c.readDefinition limit).Tracks w (Function.Like w.toLikeness) (d.readDefinition limit) := by
  have hk := h.kind
  generalize hc : c.kind = k at hk
  generalize hd : d.kind = k' at hk
  cases hk with
  | defWord =>
      have stays (p : Prototype) (c : Cursor) :
          ((c.readExpression limit).map (Function.mk p)).Stays c :=
        (stays_readExpression limit c).map
      rw [readDefinition_word hc, readDefinition_word hd]
      refine h.andNext ((stays_readPrototype _).andThen stays) fun hn => ?_
      refine (tracks_readPrototype hn).andThen stays ?_
      intro p p' c₁ d₁ _ hp h₁
      exact (readsAlike h₁).expression.map fun e e' he => ⟨hp, he⟩
  | _ =>
      rw [readDefinition_other (by simp [hc]), readDefinition_other (by simp [hd])]
      exact fun _ => .error rfl h

theorem tracks_readExtern (h : c.Tracks w d) :
    c.readExtern.Tracks w (Prototype.Like w.toLikeness) d.readExtern := by
  have hk := h.kind
  generalize hc : c.kind = k at hk
  generalize hd : d.kind = k' at hk
  cases hk with
  | externWord =>
      rw [readExtern_word hc, readExtern_word hd]
      exact h.andNext (stays_readPrototype _) tracks_readPrototype
  | _ =>
      rw [readExtern_other (by simp [hc]), readExtern_other (by simp [hd])]
      exact fun _ => .error rfl h

theorem tracks_readBare (h : c.Tracks w d) :
    (c.readBare limit).Tracks w (Function.Like w.toLikeness) (d.readBare limit) :=
  (readsAlike h).expression.map fun _ _ he => ⟨⟨h.location, w.anonymous, .nil⟩, he⟩

variable (limit) in
theorem tracks_readItem (h : c.Tracks w d) :
    (c.readItem limit).Tracks w (Item.Like w.toLikeness) (d.readItem limit) := by
  have hk := h.kind
  generalize hc : c.kind = k at hk
  generalize hd : d.kind = k' at hk
  have bare : ((c.readBare limit).map (.statement <| .expression ·)).Tracks w
      (Item.Like w.toLikeness) ((d.readBare limit).map (.statement <| .expression ·)) :=
    (tracks_readBare h).map fun _ _ hf => .statement (.expression hf)
  cases hk with
  | endOfInput =>
      rw [readItem_finish hc, readItem_finish hd]
      exact fun _ => .ok .finish h
  | defWord =>
      simp only [readItem, hc, hd]
      exact (tracks_readDefinition h).map fun _ _ hf => .statement (.definition hf)
  | externWord =>
      simp only [readItem, hc, hd]
      exact (tracks_readExtern h).map fun _ _ hp => .statement (.external hp)
  | identifier _ =>
      simpa only [readItem, hc, hd] using bare
  | number _ =>
      simpa only [readItem, hc, hd] using bare
  | char x =>
      by_cases hx : x = ';'
      · subst hx
        rw [readItem_separator hc, readItem_separator hd]
        exact fun hin => .ok .separator (h.next hin)
      · simpa [readItem, hc, hd, hx] using bare

end Cursor

end Kaleidoscope
