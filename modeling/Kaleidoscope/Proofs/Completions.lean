import Kaleidoscope.Proofs.Statements

/-!
What a failed reading has passed is the start of something. Where a reader of expressions, of a
prototype or of a statement fails, the tokens in front of the failure can be completed to what it
reads, in the grammar without a bound on nesting (`completes_readItem`). So no reader fails late.
For expressions the readers call one another, and their statements are proved together.
-/

namespace Kaleidoscope

/-! ### What there is to complete -/

def IsExpression (ts : List Token) : Prop :=
  ∃ n e, Derives .comparison n ts e

def IsPrimary (ts : List Token) : Prop :=
  ∃ n e, Derives .primary n ts e

def IsPrototype (ts : List Token) : Prop :=
  ∃ p, DerivesPrototype ts p

/-- A statement, however deep its expression is. -/
def IsStatement (ts : List Token) : Prop :=
  ∃ n s, DerivesStatement n ts s

/-- One thing or more, with a comma between any two. -/
def IsList {α : Type} (p : List Token → α → Prop) (ts : List Token) : Prop :=
  ∃ as, as ≠ [] ∧ Listed p ts as

/-- An expression and its tree. -/
def Expressed (ts : List Token) (e : Expr) : Prop :=
  ∃ n, Derives .comparison n ts e

def IsArguments (ts : List Token) : Prop :=
  ∃ es, Listed Expressed ts es

section

variable {ts us : List Token} {t o z : Token} {name : String}

theorem IsPrimary.isExpression (h : IsPrimary ts) : IsExpression ts := by
  obtain ⟨n, e, h⟩ := h
  exact ⟨n, e, h.loosen (by decide)⟩

theorem isPrimary_nested (h : IsExpression ts) (ho : o.kind = .char '(')
    (hz : z.kind = .char ')') : IsPrimary (o :: ts ++ [z]) := by
  obtain ⟨n, e, h⟩ := h
  exact ⟨n + 1, e, .nested ho h hz⟩

/-- Finitely many expressions have a bound on nesting in common. -/
theorem exists_bound {pieces : List (List Token × Expr)} (h : ∀ a ∈ pieces, Expressed a.1 a.2) :
    ∃ n, ∀ a ∈ pieces, Derives .comparison n a.1 a.2 := by
  induction pieces with
  | nil => exact ⟨0, by simp⟩
  | cons a pieces ih =>
      obtain ⟨⟨n, hn⟩, h⟩ := List.forall_mem_cons.1 h
      obtain ⟨n', ih⟩ := ih h
      refine ⟨n + n', List.forall_mem_cons.2 ⟨hn.mono (Nat.le_add_right n n'), fun b hb => ?_⟩⟩
      exact (ih b hb).mono (Nat.le_add_left n' n)

theorem isPrimary_call (h : IsArguments ts) (ht : t.kind = .identifier name)
    (ho : o.kind = .char '(') (hz : z.kind = .char ')') : IsPrimary (t :: o :: ts ++ [z]) := by
  obtain ⟨es, pieces, -, hsep, hd⟩ := h
  obtain ⟨n, hd⟩ := exists_bound hd
  exact ⟨n + 1, _, .call ht ho hsep hd hz⟩

theorem exists_isPrimary : ∃ ts, IsPrimary ts :=
  ⟨[⟨.identifier "x", .start ""⟩], 1, _, .reference rfl⟩

theorem exists_isExpression : ∃ ts, IsExpression ts := by
  obtain ⟨ts, h⟩ := exists_isPrimary
  exact ⟨ts, h.isExpression⟩

theorem isPrototype_of_listed {names : List String} (h : Listed DerivesName ts names)
    (ht : t.kind = .identifier name) (ho : o.kind = .char '(') (hz : z.kind = .char ')') :
    IsPrototype (t :: o :: ts ++ [z]) :=
  ⟨_, .intro ht ho h hz⟩

theorem exists_isPrototype : ∃ ts, IsPrototype ts :=
  ⟨_, isPrototype_of_listed (t := ⟨.identifier "x", .start ""⟩) (o := ⟨.char '(', .start ""⟩)
    (z := ⟨.char ')', .start ""⟩) (Listed.nil_iff.2 rfl) rfl rfl rfl⟩

theorem IsExpression.isStatement (h : IsExpression ts) : IsStatement ts := by
  obtain ⟨n, e, h⟩ := h
  obtain ⟨t, rest, rfl, -⟩ := h.head
  exact ⟨n, _, .expression h⟩

theorem isStatement_definition (hp : IsPrototype ts) (he : IsExpression us)
    (ht : t.kind = .defWord) : IsStatement (t :: ts ++ us) := by
  obtain ⟨p, hp⟩ := hp
  obtain ⟨n, e, he⟩ := he
  exact ⟨n, _, .definition ht hp he⟩

theorem isStatement_external (hp : IsPrototype ts) (ht : t.kind = .externWord) :
    IsStatement (t :: ts) := by
  obtain ⟨p, hp⟩ := hp
  exact ⟨0, _, .external ht hp⟩

theorem Operands.mono {n n' : Nat} {a : Expr} {links : List Link} (h : Operands n ts a links)
    (hn : n ≤ n') : Operands n' ts a links := by
  induction h with
  | one h => exact .one (h.mono hn)
  | more h hk _ ih => exact .more (h.mono hn) hk ih

/-- A chain of primaries goes on with an operator and one more. -/
theorem Operands.isExpression {n : Nat} {a : Expr} {links : List Link} {op : Char} {q : Nat}
    (h : Operands n ts a links) (hk : t.kind.operator? = some (op, q)) (h' : IsPrimary us) :
    IsExpression (ts ++ t :: us) := by
  obtain ⟨n', b, h'⟩ := h'
  have hleft := h.mono (Nat.le_add_right n n')
  have hright := Operands.one (h'.mono (Nat.le_add_left n' n))
  obtain ⟨e, he⟩ := Grouped.total a (links ++ [⟨t.location, op, q, b⟩])
  exact ⟨n + n', e, derives_comparison_iff.2 ⟨a, _, hleft.append hk hright, he⟩⟩

end

/-! ### Readings that can be completed -/

namespace Outcome

variable {α β : Type} {p q : List Token → Prop} {c c₁ : Cursor} {o : Outcome α} {ts : List Token}

/-- If the reading from a cursor fails, the tokens passed are the start of such tokens. -/
def Completes (p : List Token → Prop) (c : Cursor) (o : Outcome α) : Prop :=
  ∀ f, o = .error f → ∃ used us, c.Passes used f.cursor ∧ p (used ++ us)

theorem completes_ok (a : α × Cursor) : Completes p c (.ok a) :=
  fun _ h => by contradiction

theorem completes_error {f : Failure} (hp : c.Passes ts f.cursor) (h : ∃ us, p (ts ++ us)) :
    Completes p c (.error f : Outcome α) := by
  intro f' hf
  obtain rfl := Except.error.inj hf
  obtain ⟨us, h⟩ := h
  exact ⟨ts, us, hp, h⟩

/-- What completes the rest completes the whole, if something may stand behind it that does. -/
theorem Completes.after (h : o.Completes q c₁) (hp : c.Passes ts c₁)
    (hq : ∀ us, q us → ∃ vs, p (ts ++ us ++ vs)) : o.Completes p c := by
  intro f hf
  obtain ⟨used, us, hp', h⟩ := h f hf
  obtain ⟨vs, h⟩ := hq _ h
  exact ⟨ts ++ used, us ++ vs, hp.trans hp', by simpa using h⟩

theorem Completes.weaken (h : o.Completes q c) (hq : ∀ us, q us → ∃ vs, p (us ++ vs)) :
    o.Completes p c :=
  h.after (Cursor.passes_nil.2 rfl) (by simpa using hq)

theorem Completes.map (h : o.Completes p c) (g : α → β) : (o.map g).Completes p c := by
  cases o with
  | error f => exact fun f' hf => h f' (congrArg Except.error (Except.error.inj hf))
  | ok a => exact completes_ok _

theorem Completes.andThen {k : α → Cursor → Outcome β} (h : o.Completes p c)
    (hk : ∀ a c₁, o = .ok (a, c₁) → (k a c₁).Completes p c) : (o.andThen k).Completes p c := by
  cases o with
  | error f => exact fun f' hf => h f' (congrArg Except.error (Except.error.inj hf))
  | ok a => exact hk a.1 a.2 rfl

theorem Completes.ascend (h : o.Completes p c.descend) : o.ascend.Completes p c := by
  cases o with
  | error f =>
      obtain ⟨used, us, hp, h⟩ := h f rfl
      rw [← hp.descend_ascend, Cursor.passes_descend] at hp
      exact completes_error (f := f.ascend) hp ⟨us, h⟩
  | ok a => exact completes_ok _

end Outcome

namespace Cursor

open Outcome

variable {m : Nat} {c c₁ : Cursor}

/-! ### Lists -/

/-- A list can be completed if its first element and the rest of the list can. -/
theorem completes_readList {α : Type} {p : List Token → α → Prop} {cause : GrammarFault}
    {element : Cursor → Outcome α} {list : Cursor → Outcome (List α)}
    (hl : list c = (element c).andThen (afterElement cause list))
    (he : (element c).Completes (fun ts => ∃ a, p ts a) c)
    (hd : ∀ a c₁, element c = .ok (a, c₁) → ∃ used, c.Passes used c₁ ∧ p used a)
    (ih : ∀ a c₁, element c = .ok (a, c₁) → (list c₁.next).Completes (IsList p) c₁.next) :
    (list c).Completes (IsList p) c := by
  rw [hl]
  refine Completes.andThen (he.weaken ?_) ?_
  · rintro us ⟨a, ha⟩
    exact ⟨[], [a], by simp, by simpa using Listed.singleton_iff.2 ha⟩
  · intro a c₁ hread
    obtain ⟨used, hp, ha⟩ := hd a c₁ hread
    by_cases hclose : c₁.kind = .char ')'
    · rw [afterElement_close hclose]
      exact completes_ok _
    · by_cases hcomma : c₁.kind = .char ','
      · rw [afterElement_comma hcomma]
        refine ((ih a c₁ hread).map _).after (hp.trans (passes_next (by simp [hcomma]))) ?_
        rintro us ⟨as, hne, hlist⟩
        obtain ⟨b, bs, rfl⟩ := List.exists_cons_of_ne_nil hne
        have hcons : Listed p (used ++ c₁.current :: us) (a :: b :: bs) :=
          Listed.cons_iff.2 ⟨used, c₁.current, us, rfl, hcomma, ha, hlist⟩
        exact ⟨[], a :: b :: bs, by simp, by simpa using hcons⟩
      · rw [afterElement_other hclose hcomma]
        exact completes_error hp ⟨[], [a], by simp, by simpa using Listed.singleton_iff.2 ha⟩

/-! ### Expressions -/

theorem expressed_of_readExpression {e : Expr} (h : c.readExpression (some m) = .ok (e, c₁)) :
    ∃ used, c.Passes used c₁ ∧ Expressed used e := by
  obtain ⟨hfull, -⟩ := readExpression_cases h
  simp only [full, Option.any_some, decide_eq_false_iff_not] at hfull
  obtain ⟨used, hp, hd, -⟩ := (readsExpressions m (m - c.depth) c c₁ e (by omega)).1 h
  exact ⟨used, hp, _, hd⟩

/-- What each reader of expressions fails on can be completed. -/
structure ReadsCompletable (m : Nat) (c : Cursor) : Prop where
  primary : (c.readPrimary (some m)).Completes IsPrimary c
  expression : (c.readExpression (some m)).Completes IsExpression c
  argumentList : (c.readArgumentList (some m)).Completes (IsList Expressed) c
  arguments : (c.readArguments (some m)).Completes IsArguments c

theorem completes_afterNested {used : List Token} {o : Token} {e : Expr} (ho : o.kind = .char '(')
    (hp : c.Passes (o :: used) c₁) (he : IsExpression used) :
    (c₁.afterNested e).Completes IsPrimary c := by
  by_cases hz : c₁.kind = .char ')'
  · rw [afterNested_close hz]
    exact completes_ok _
  · rw [afterNested_other hz]
    exact completes_error hp ⟨[⟨.char ')', c₁.location⟩], isPrimary_nested he ho rfl⟩

theorem completes_readPrimary_of
    (ih : ∀ d : Cursor, d.remaining < c.remaining → ReadsCompletable m d) :
    (c.readPrimary (some m)).Completes IsPrimary c := by
  by_cases hs : c.kind.StartsExpression
  · have hne : c.kind ≠ .endOfInput := by
      rintro he
      rw [he] at hs
      exact hs
    have hp := passes_next hne
    have hlt := remaining_next_lt hne
    have hle := remaining_next_le c.next
    cases hk : c.kind with
    | number value =>
        rw [readPrimary_number hk]
        exact completes_ok _
    | identifier name =>
        rw [readPrimary_name hk]
        by_cases ho : c.next.kind = .char '('
        · rw [afterName_call ho]
          have hp' := hp.trans (passes_next (c := c.next) (by simp [ho]))
          refine ((ih c.next.next (by omega)).arguments.map _).after hp' fun us hus => ?_
          exact ⟨[⟨.char ')', c.location⟩], isPrimary_call hus hk ho rfl⟩
        · rw [afterName_reference ho]
          exact completes_ok _
    | char x =>
        obtain rfl : x = '(' := by rwa [hk] at hs
        rw [readPrimary_nested hk]
        refine Completes.andThen ?_ fun e c₁ hread => ?_
        · refine (ih c.next hlt).expression.after hp fun us hus => ?_
          exact ⟨[⟨.char ')', c.location⟩], isPrimary_nested hus hk rfl⟩
        · obtain ⟨used, hp', he⟩ := expressed_of_readExpression hread
          obtain ⟨n, he⟩ := he
          exact completes_afterNested hk (hp.trans hp') ⟨n, e, he⟩
    | _ => simp [hk, Token.Kind.StartsExpression] at hs
  · rw [readPrimary_other hs]
    exact completes_error (passes_nil.2 rfl) exists_isPrimary

/-- The operand that a chain fails on is completed, and what is in front of it is a chain. -/
theorem completes_readChain_of {k : Nat} {a : Expr} (hc : c.depth + k = m)
    (ha : c.readPrimary (some m) = .ok (a, c₁))
    (ih : ∀ d : Cursor, d.remaining < c.remaining → ReadsCompletable m d) :
    (c₁.readChain (some m) 0 a).Completes IsExpression c := by
  intro f hf
  obtain ⟨links, c₂, op, q, hlinks, hk, hr⟩ := readChain_error hf
  have hP := readsPrimaries_of (readsExpressions m k)
  obtain ⟨used, hp, ho, -⟩ := hlinks.operands hP hc ha
  have hne := ne_end_of_operator hk
  have hlt := remaining_next_lt hne
  have hle := hp.reaches.remaining_le
  obtain ⟨used', us, hp', h⟩ := (ih c₂.next (by omega)).primary f hr
  refine ⟨used ++ c₂.current :: used', us, hp.trans (passes_cons.2 ⟨rfl, hne, hp'⟩), ?_⟩
  simpa using ho.isExpression hk h

theorem completes_readExpression_of
    (hp : (c.descend.readPrimary (some m)).Completes IsPrimary c.descend)
    (ih : ∀ d : Cursor, d.remaining < c.remaining → ReadsCompletable m d) :
    (c.readExpression (some m)).Completes IsExpression c := by
  cases hfull : c.full (some m) with
  | true =>
      rw [readExpression_full hfull]
      exact completes_error (passes_nil.2 rfl) exists_isExpression
  | false =>
      rw [readExpression_room hfull]
      simp only [full, Option.any_some, decide_eq_false_iff_not] at hfull
      have hdepth : c.descend.depth + (m - (c.depth + 1)) = m := by
        simp only [descend]
        omega
      refine Completes.ascend (Completes.andThen (hp.weaken fun us hus => ?_) fun a c₁ ha => ?_)
      · exact ⟨[], by simpa using hus.isExpression⟩
      · exact completes_readChain_of hdepth ha ih

theorem completes_readArgumentList_of
    (he : (c.readExpression (some m)).Completes IsExpression c)
    (ih : ∀ d : Cursor, d.remaining < c.remaining → ReadsCompletable m d) :
    (c.readArgumentList (some m)).Completes (IsList Expressed) c := by
  refine completes_readList (readArgumentList_andThen _ c) (he.weaken ?_)
    (fun e c₁ => expressed_of_readExpression) fun e c₁ hread => ?_
  · rintro us ⟨n, e, h⟩
    exact ⟨[], e, n, by simpa using h⟩
  · have hlt := readExpression_lt hread
    have hle := remaining_next_le c₁
    exact (ih c₁.next (by omega)).argumentList

theorem completes_readArguments_of
    (hl : (c.readArgumentList (some m)).Completes (IsList Expressed) c) :
    (c.readArguments (some m)).Completes IsArguments c := by
  by_cases hk : c.kind = .char ')'
  · rw [readArguments_none hk]
    exact completes_ok _
  · rw [readArguments_some hk]
    refine hl.weaken ?_
    rintro us ⟨es, -, h⟩
    exact ⟨[], es, by simpa using h⟩

theorem readsCompletable (m : Nat) (c : Cursor) : ReadsCompletable m c := by
  induction c using ahead_induction with
  | step c smaller =>
      -- one level deeper there are as many tokens ahead
      have inner : (c.descend.readPrimary (some m)).Completes IsPrimary c.descend :=
        completes_readPrimary_of smaller
      have expression := completes_readExpression_of inner smaller
      have list := completes_readArgumentList_of expression smaller
      exact
        { primary := completes_readPrimary_of smaller
          expression := expression
          argumentList := list
          arguments := completes_readArguments_of list }

/-! ### Statements -/

theorem completes_readName (c : Cursor) :
    c.readName.Completes (fun ts => ∃ name, DerivesName ts name) c := by
  by_cases h : ∃ name, c.kind = .identifier name
  · obtain ⟨name, hk⟩ := h
    rw [readName_name hk]
    exact completes_ok _
  · rw [readName_other fun name hk => h ⟨name, hk⟩]
    exact completes_error (passes_nil.2 rfl) ⟨[⟨.identifier "x", c.location⟩], "x", _, rfl, rfl⟩

theorem completes_readParameters (c : Cursor) :
    c.readParameters.Completes (IsList DerivesName) c := by
  induction c using ahead_induction with
  | step c ih =>
      refine completes_readList (readParameters_andThen c) (completes_readName c)
        (fun name c₁ => (readsNames c.depth).derives rfl) fun name c₁ hread => ?_
      obtain ⟨used, hp, t, rfl, -⟩ := (readsNames c.depth).derives rfl hread
      obtain ⟨-, hne, rfl⟩ := passes_singleton.1 hp
      have hlt := remaining_next_lt (c := c) (by rwa [kind, (passes_singleton.1 hp).1])
      have hle := remaining_next_le c.next
      exact ih _ (by omega)

theorem completes_readPrototype (c : Cursor) : c.readPrototype.Completes IsPrototype c := by
  have empty : Listed DerivesName [] [] := Listed.nil_iff.2 rfl
  by_cases h : ∃ name, c.kind = .identifier name
  · obtain ⟨name, hk⟩ := h
    have hp := passes_next (c := c) (by simp [hk])
    rw [readPrototype_name hk]
    by_cases ho : c.next.kind = .char '('
    · have hp' := hp.trans (passes_next (c := c.next) (by simp [ho]))
      rw [afterFunctionName_open ho]
      by_cases hz : c.next.next.kind = .char ')'
      · rw [afterOpening_close hz]
        exact completes_ok _
      · rw [afterOpening_some hz]
        refine ((completes_readParameters _).map _).after hp' ?_
        rintro us ⟨names, -, hlist⟩
        exact ⟨[⟨.char ')', c.location⟩], isPrototype_of_listed hlist hk ho rfl⟩
    · rw [afterFunctionName_other ho]
      exact completes_error hp ⟨[⟨.char '(', c.location⟩, ⟨.char ')', c.location⟩],
        isPrototype_of_listed empty hk rfl rfl⟩
  · rw [readPrototype_other fun name hk => h ⟨name, hk⟩]
    exact completes_error (passes_nil.2 rfl) exists_isPrototype

theorem completes_readDefinition (h : c.kind = .defWord) :
    (c.readDefinition (some m)).Completes IsStatement c := by
  have hp := passes_next (c := c) (by simp [h])
  rw [readDefinition_word h]
  refine Completes.andThen ((completes_readPrototype _).after hp fun us hus => ?_)
    fun p c₁ hread => ?_
  · obtain ⟨vs, hvs⟩ := exists_isExpression
    exact ⟨vs, isStatement_definition hus hvs h⟩
  · obtain ⟨ps, hp', hproto⟩ := readPrototype_eq_ok_iff.1 hread
    refine ((readsCompletable m c₁).expression.map _).after (hp.trans hp') fun us hus => ?_
    exact ⟨[], by simpa using isStatement_definition ⟨p, hproto⟩ hus h⟩

theorem completes_readExtern (h : c.kind = .externWord) : c.readExtern.Completes IsStatement c := by
  rw [readExtern_word h]
  refine (completes_readPrototype _).after (passes_next (by simp [h])) fun us hus => ?_
  exact ⟨[], by simpa using isStatement_external hus h⟩

/-- What a failed reading of a statement has passed is the start of a statement. -/
theorem completes_readItem (m : Nat) (c : Cursor) :
    (c.readItem (some m)).Completes IsStatement c := by
  have bare : (c.readBare (some m)).Completes IsStatement c :=
    ((readsCompletable m c).expression.weaken fun us hus =>
      ⟨[], by simpa using hus.isStatement⟩).map _
  rw [readItem]
  split <;> rename_i hk
  · exact completes_ok _
  · exact (completes_readDefinition hk).map _
  · exact (completes_readExtern hk).map _
  · exact completes_ok _
  · exact bare.map _

end Cursor

end Kaleidoscope
