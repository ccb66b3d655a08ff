import Kaleidoscope.Proofs.Derivation
import Kaleidoscope.Proofs.Lists
import Kaleidoscope.Proofs.Places

/-!
The readers of expressions recognise the grammar. Where the nesting limit leaves room for `k`
expressions inside one another, `readExpression` succeeds exactly on what derives within the bound
`k` and cannot go on (`readsExpressions`). A chain of operators needs no induction here, since
`readChain_eq_ok_iff` has dealt with it, so the only induction is on the room: the readers at one
depth call `readExpression` one level deeper.
-/

namespace Kaleidoscope

namespace Cursor

/-- A name that has just been passed and an opening parenthesis are a call. -/
def StopsAfter (used : List Token) (c : Cursor) : Prop :=
  ¬(EndsInName used ∧ c.kind = .char '(')

/-- With room for `k` expressions inside one another, `readExpression` reads what derives within
that bound, where nothing that follows could belong to it. -/
def ReadsExpressions (m k : Nat) : Prop :=
  ∀ (c c' : Cursor) (e : Expr), c.depth + k = m →
    (c.readExpression (some m) = .ok (e, c') ↔
      ∃ used, c.Passes used c' ∧ Derives .comparison k used e ∧ c'.kind.operator? = none ∧
        c'.StopsAfter used)

/-- `readPrimary` runs inside an expression, which has taken one of the places. -/
def ReadsPrimaries (m k : Nat) : Prop :=
  ∀ (c c' : Cursor) (e : Expr), c.depth + k = m →
    (c.readPrimary (some m) = .ok (e, c') ↔
      ∃ used, c.Passes used c' ∧ Derives .primary (k + 1) used e ∧ c'.StopsAfter used)

variable {m k : Nat} {c c₁ c' : Cursor} {e : Expr} {es : List Expr}

/-- Behind an argument there is a comma or a parenthesis, so nothing goes on. -/
theorem ends_argument (h : c.kind = .char ',' ∨ c.kind = .char ')') :
    c.kind.operator? = none ∧ ∀ used, c.StopsAfter used := by
  rcases h with h | h
  · exact ⟨by rw [h]; rfl, by simp [StopsAfter, h]⟩
  · exact ⟨by rw [h]; rfl, by simp [StopsAfter, h]⟩

theorem ends_input (h : c.kind = .endOfInput) :
    c.kind.operator? = none ∧ ∀ used, c.StopsAfter used :=
  ⟨by rw [h]; rfl, by simp [StopsAfter, h]⟩

theorem head_arguments {ts : List Token} (h : Listed (Derives .comparison k) ts (e :: es)) :
    ∃ t rest, ts = t :: rest ∧ t.kind.StartsExpression := by
  cases es with
  | nil => exact (Listed.singleton_iff.1 h).head
  | cons e' es =>
      obtain ⟨us, t, vs, rfl, -, hd, -⟩ := Listed.cons_iff.1 h
      obtain ⟨first, rest, rfl, hk⟩ := hd.head
      exact ⟨first, rest ++ t :: vs, rfl, hk⟩

theorem ReadsExpressions.readsElements (hE : ReadsExpressions m k) (hc : c.depth + k = m) :
    ReadsElements c.depth (readExpression (some m)) (Derives .comparison k) where
  derives {c₀ c₁ e} hd h := by
    obtain ⟨used, hp, he, -, -⟩ := (hE c₀ c₁ e (by rw [hd, hc])).1 h
    exact ⟨used, hp, he⟩
  reads {c₀ c₁ e used} hd hp he hk := by
    obtain ⟨hop, hstop⟩ := ends_argument hk
    exact (hE c₀ c₁ e (by rw [hd, hc])).2 ⟨used, hp, he, hop, hstop used⟩

theorem readArgumentList_eq_ok_iff (hE : ReadsExpressions m k) (hc : c.depth + k = m) :
    c.readArgumentList (some m) = .ok (es, c') ↔
      ∃ ts z, es ≠ [] ∧ Listed (Derives .comparison k) ts es ∧ z.kind = .char ')' ∧
        c.Passes (ts ++ [z]) c' :=
  readList_eq_ok_iff (hE.readsElements hc) (readArgumentList_andThen _) rfl

/-- The arguments from behind the opening parenthesis. -/
theorem readArguments_eq_ok_iff (hE : ReadsExpressions m k) (hc : c.depth + k = m) :
    c.readArguments (some m) = .ok (es, c') ↔
      ∃ ts z, Listed (Derives .comparison k) ts es ∧ z.kind = .char ')' ∧
        c.Passes (ts ++ [z]) c' := by
  by_cases hk : c.kind = .char ')'
  · rw [readArguments_none hk]
    constructor
    · intro h
      obtain ⟨rfl, rfl⟩ : [] = es ∧ c.next = c' := by simpa using h
      exact ⟨[], c.current, Listed.nil_iff.2 rfl, hk, passes_next (by simp [hk])⟩
    · rintro ⟨ts, z, hlist, hz, hp⟩
      cases es with
      | nil =>
          obtain rfl := Listed.nil_iff.1 hlist
          obtain ⟨-, -, rfl⟩ := passes_singleton.1 hp
          rfl
      | cons e es =>
          obtain ⟨t, rest, rfl, hs⟩ := head_arguments hlist
          obtain ⟨rfl, -⟩ := passes_cons.1 hp
          rw [show c.current.kind = .char ')' from hk] at hs
          exact absurd hs (by simp [Token.Kind.StartsExpression])
  · rw [readArguments_some hk, readArgumentList_eq_ok_iff hE hc]
    constructor
    · rintro ⟨ts, z, -, hlist, hz, hp⟩
      exact ⟨ts, z, hlist, hz, hp⟩
    · rintro ⟨ts, z, hlist, hz, hp⟩
      refine ⟨ts, z, ?_, hlist, hz, hp⟩
      rintro rfl
      obtain rfl := Listed.nil_iff.1 hlist
      obtain ⟨rfl, -⟩ := passes_singleton.1 hp
      exact hk hz

/-- Only a name can be at the end of something that an opening parenthesis goes on with. -/
theorem stopsAfter_of_closing {ts : List Token} {z : Token} (hz : z.kind = .char ')') :
    c.StopsAfter (ts ++ [z]) :=
  fun h => not_endsInName_of_closing hz h.1

theorem derives_of_readPrimary (hE : ReadsExpressions m k) (hc : c.depth + k = m)
    (h : c.readPrimary (some m) = .ok (e, c')) :
    ∃ used, c.Passes used c' ∧ Derives .primary (k + 1) used e ∧ c'.StopsAfter used := by
  by_cases hs : c.kind.StartsExpression
  · have hp := passes_next (c := c) (by rintro hk; rw [hk] at hs; exact hs)
    cases hk : c.kind with
    | number value =>
        rw [readPrimary_number hk] at h
        obtain ⟨rfl, rfl⟩ : _ = e ∧ c.next = c' := by simpa using h
        have hk : c.current.kind = .number value := hk
        exact ⟨[c.current], hp, .number hk, by simp [StopsAfter, hk]⟩
    | identifier name =>
        rw [readPrimary_name hk] at h
        by_cases ho : c.next.kind = .char '('
        · rw [afterName_call ho] at h
          obtain ⟨es, hes, rfl⟩ := Outcome.map_eq_ok_iff.1 h
          have hp' := hp.trans (passes_next (c := c.next) (by simp [ho]))
          obtain ⟨ts, z, ⟨pieces, rfl, hsep, hd⟩, hz, hp''⟩ :=
            (readArguments_eq_ok_iff hE (by rw [depth_next, depth_next, hc])).1 hes
          refine ⟨c.current :: c.next.current :: ts ++ [z], hp'.trans hp'',
            .call hk ho hsep hd hz, stopsAfter_of_closing hz⟩
        · rw [afterName_reference ho] at h
          obtain ⟨rfl, rfl⟩ : _ = e ∧ c.next = c' := by simpa using h
          exact ⟨[c.current], hp, .reference hk, fun hstop => ho hstop.2⟩
    | char x =>
        obtain rfl : x = '(' := by rwa [hk] at hs
        rw [readPrimary_nested hk] at h
        obtain ⟨e₀, c₁, he, h⟩ := Outcome.andThen_eq_ok_iff.1 h
        by_cases hz : c₁.kind = .char ')'
        · rw [afterNested_close hz] at h
          obtain ⟨rfl, rfl⟩ : e₀ = e ∧ c₁.next = c' := by simpa using h
          obtain ⟨used, hp', hd, -, -⟩ := (hE c.next c₁ e₀ (by rw [depth_next, hc])).1 he
          have hp'' := (hp.trans hp').trans (passes_next (by simp [hz]))
          exact ⟨c.current :: used ++ [c₁.current], hp'', .nested hk hd hz,
            stopsAfter_of_closing hz⟩
        · rw [afterNested_other hz] at h
          contradiction
    | _ => simp [hk, Token.Kind.StartsExpression] at hs
  · rw [readPrimary_other hs] at h
    contradiction

theorem readPrimary_of_derives (hE : ReadsExpressions m k) (hc : c.depth + k = m)
    {used : List Token} (hp : c.Passes used c') (hd : Derives .primary (k + 1) used e)
    (hs : c'.StopsAfter used) : c.readPrimary (some m) = .ok (e, c') := by
  cases hd with
  | lift h => contradiction
  | apply _ _ h => contradiction
  | number hk =>
      obtain ⟨rfl, -, rfl⟩ := passes_singleton.1 hp
      exact readPrimary_number hk
  | reference hk =>
      obtain ⟨rfl, -, rfl⟩ := passes_singleton.1 hp
      have hk' : c.next.kind ≠ .char '(' := fun h => hs ⟨by simp [hk], h⟩
      rw [readPrimary_name hk, afterName_reference hk']
      rfl
  | @call _ t o z name ts arguments hk ho hsep hd hz =>
      rw [List.cons_append, List.cons_append] at hp
      obtain ⟨rfl, -, hp⟩ := passes_cons.1 hp
      obtain ⟨rfl, -, hp⟩ := passes_cons.1 hp
      have hread := (readArguments_eq_ok_iff hE (by rw [depth_next, depth_next, hc])).2
        ⟨ts, z, ⟨arguments, rfl, hsep, hd⟩, hz, hp⟩
      rw [readPrimary_name hk, afterName_call ho, hread]
      rfl
  | @nested _ o z ts _ ho hd hz =>
      rw [List.cons_append] at hp
      obtain ⟨rfl, -, hp⟩ := passes_cons.1 hp
      obtain ⟨c₁, hts, hp₁⟩ := passes_append.1 hp
      obtain ⟨rfl, -, rfl⟩ := passes_singleton.1 hp₁
      obtain ⟨hop, hstop⟩ := ends_argument (.inr hz)
      have hread := (hE c.next c₁ e (by rw [depth_next, hc])).2 ⟨ts, hts, hd, hop, hstop ts⟩
      rw [readPrimary_nested ho, hread, Outcome.andThen_ok, afterNested_close hz]

theorem readsPrimaries_of (hE : ReadsExpressions m k) : ReadsPrimaries m k := by
  intro c c' e hc
  constructor
  · exact derives_of_readPrimary hE hc
  · rintro ⟨used, hp, hd, hs⟩
    exact readPrimary_of_derives hE hc hp hd hs

/-- A primary and the links behind it pass over a chain of primaries. -/
theorem Chained.operands (hP : ReadsPrimaries m k) (hc : c.depth + k = m) {links : List Link}
    {a : Expr} (ha : c.readPrimary (some m) = .ok (a, c₁))
    (h : c₁.Chained (some m) links c') :
    ∃ used, c.Passes used c' ∧ Operands (k + 1) used a links ∧ c'.StopsAfter used := by
  obtain ⟨used, hp, hd, hs⟩ := (hP c c₁ a hc).1 ha
  induction h generalizing c a used with
  | nil => exact ⟨used, hp, .one hd, hs⟩
  | @cons c₁ c₂ c' op q b links hk hr h ih =>
      have hp₁ := hp.trans (passes_next (ne_end_of_operator hk))
      have hdepth : c₁.next.depth + k = m := by rw [hp₁.depth_eq, hc]
      obtain ⟨used', hp', hd', hs'⟩ := (hP c₁.next c₂ b hdepth).1 hr
      obtain ⟨rest, hrest, ho, hstop⟩ := ih hdepth hr used' hp' hd' hs'
      refine ⟨used ++ c₁.current :: rest, by simpa using hp₁.trans hrest, .more hd hk ho, ?_⟩
      rwa [StopsAfter, endsInName_append_cons ho.ne_nil]

theorem Chained.of_operands (hP : ReadsPrimaries m k) (hc : c.depth + k = m) {links : List Link}
    {a : Expr} {used : List Token} (ho : Operands (k + 1) used a links)
    (hp : c.Passes used c') (hs : c'.StopsAfter used) :
    ∃ c₁, c.readPrimary (some m) = .ok (a, c₁) ∧ c₁.Chained (some m) links c' := by
  induction ho generalizing c with
  | one hd => exact ⟨c', (hP c c' _ hc).2 ⟨_, hp, hd, hs⟩, .nil c'⟩
  | @more ts us t op q a b links hd hk ho ih =>
      obtain ⟨c₁, hts, hp'⟩ := passes_append.1 hp
      obtain ⟨rfl, -, hus⟩ := passes_cons.1 hp'
      have hdepth : c₁.next.depth + k = m := by rw [depth_next, hts.depth_eq, hc]
      obtain ⟨c₂, hr, hlinks⟩ := ih hdepth hus (by
        rwa [StopsAfter, endsInName_append_cons ho.ne_nil] at hs)
      refine ⟨c₁, (hP c c₁ a hc).2 ⟨ts, hts, hd, ?_⟩, .cons hk hr hlinks⟩
      -- a name in front of an operator is no callee
      rintro ⟨-, hpar⟩
      rw [show c₁.current.kind = _ from hpar] at hk
      simp [Token.Kind.operator?, precedence?] at hk

/-- What a successful reading of an expression has done, one level deeper. -/
theorem readExpression_cases {limit : Option Nat} (h : c.readExpression limit = .ok (e, c')) :
    c.full limit = false ∧ ∃ a c₁ c₂, c.descend.readPrimary limit = .ok (a, c₁) ∧
      c₁.readChain limit 0 a = .ok (e, c₂) ∧ c' = c₂.ascend := by
  cases hfull : c.full limit with
  | true => simp [readExpression_full hfull] at h
  | false =>
      rw [readExpression_room hfull] at h
      obtain ⟨c₂, hinner, rfl⟩ := Outcome.ascend_eq_ok_iff.1 h
      obtain ⟨a, c₁, ha, hchain⟩ := Outcome.andThen_eq_ok_iff.1 hinner
      exact ⟨rfl, a, c₁, c₂, ha, hchain, rfl⟩

theorem readsExpressions_succ (hP : ReadsPrimaries m k) : ReadsExpressions m (k + 1) := by
  intro c c' e hc
  have hdepth : c.descend.depth + k = m := by
    simp only [descend]
    omega
  constructor
  · intro h
    obtain ⟨-, a, c₁, c₂, ha, hchain, rfl⟩ := readExpression_cases h
    obtain ⟨links, hlinks, -, hg, hs⟩ := readChain_eq_ok_iff.1 hchain
    obtain ⟨used, hp, ho, hstop⟩ := hlinks.operands hP hdepth ha
    rw [← hp.descend_ascend, passes_descend] at hp
    exact ⟨used, hp, derives_comparison_iff.2 ⟨a, links, ho, hg⟩,
      Token.Kind.stopsAt_zero.1 hs, hstop⟩
  · rintro ⟨used, hp, hd, hop, hstop⟩
    obtain ⟨a, links, ho, hg⟩ := derives_comparison_iff.1 hd
    obtain ⟨c₁, ha, hlinks⟩ := Chained.of_operands hP hdepth ho (passes_descend.2 hp) hstop
    have hchain : c₁.readChain (some m) 0 a = .ok (e, c'.descend) := readChain_eq_ok_iff.2
      ⟨links, hlinks, fun _ _ => Nat.zero_le _, hg, Token.Kind.stopsAt_zero.2 hop⟩
    have hfull : c.full (some m) = false := by
      simp only [full, Option.any_some, decide_eq_false_iff_not]
      omega
    rw [readExpression_room hfull, ha, Outcome.andThen_ok, hchain]
    rfl

/-- Without room there is no expression, neither read nor derived. -/
theorem readsExpressions_zero (m : Nat) : ReadsExpressions m 0 := by
  intro c c' e hc
  constructor
  · intro h
    obtain ⟨hfull, -⟩ := readExpression_cases h
    simp only [full, Option.any_some, decide_eq_false_iff_not] at hfull
    omega
  · rintro ⟨used, -, hd, -⟩
    exact absurd hd.pos (Nat.lt_irrefl 0)

theorem readsExpressions (m k : Nat) : ReadsExpressions m k := by
  induction k with
  | zero => exact readsExpressions_zero m
  | succ k ih => exact readsExpressions_succ (readsPrimaries_of ih)

end Cursor

/-- Alone in the input, an expression is read where there is room for it. -/
theorem Derives.readExpression_alone {n m : Nat} {ts : List Token} {e : Expr}
    (h : Derives .comparison n ts e) (hn : n ≤ m) (l : Location) :
    (Cursor.start ⟨ts, l⟩).readExpression (some m) =
      .ok (e, Token.Stream.cursorAt ⟨ts, l⟩ ts.length) := by
  let whole : Token.Stream := ⟨ts, l⟩
  have hp : (Cursor.start whole).Passes ts (whole.cursorAt ts.length) :=
    Token.Stream.passes_start fun t ht => (h.within t ht).1
  obtain ⟨hop, hstop⟩ := Cursor.ends_input whole.kind_cursorAt_length
  exact (Cursor.readsExpressions m m _ _ e (Nat.zero_add m)).2
    ⟨ts, hp, h.mono hn, hop, hstop ts⟩

namespace Token.Stream

/-- Reading an expression recognises the grammar: from any place of a stream, it succeeds where
what it passes derives within the nesting limit and nothing that follows could belong to it. -/
theorem readExpression_eq_ok_iff (s : Stream) (i : Nat) (e : Expr) (hi : i ≤ s.firstEnd) :
    (∀ j, (s.cursorAt i).readExpression (some nestingLimit) = .ok (e, s.cursorAt j) ↔
      i ≤ j ∧ Derives .comparison nestingLimit (s.toList.extract i j) e ∧
        ∃ next ∈ s.toList[j]?, (∀ op ∈ ['<', '+', '-', '*'], next.kind ≠ .char op) ∧
          ¬((∃ last ∈ s.toList[j - 1]?, ∃ name, last.kind = .identifier name) ∧
            next.kind = .char '(')) ∧
    ∀ c, (s.cursorAt i).readExpression (some nestingLimit) = .ok (e, c) →
      ∃ j ≤ s.firstEnd, c = s.cursorAt j := by
  have reads (c : Cursor) := Cursor.readsExpressions nestingLimit nestingLimit (s.cursorAt i) c e
    (Nat.zero_add _)
  have hle := s.firstEnd_le
  have hlen : s.toList.length = s.body.length + 1 := by simp [toList]
  constructor
  · intro j
    rw [reads]
    constructor
    · rintro ⟨used, hp, hd, hop, hstop⟩
      obtain ⟨j', hij, hj, rfl, hc⟩ := (passes_cursorAt_iff hi).1 hp
      obtain rfl : j = j' := congrArg Cursor.index hc
      refine ⟨hij, hd, _, current_cursorAt (by omega), Rank.operator_eq_none_iff.1 hop, ?_⟩
      have hlt : i < j := lt_of_extract_ne_nil hd.ne_nil
      rwa [Cursor.StopsAfter, endsInName_extract hlt (by omega)] at hstop
    · rintro ⟨hij, hd, next, hnext, hop, hstop⟩
      have hlt : i < j := lt_of_extract_ne_nil hd.ne_nil
      obtain ⟨hj, -⟩ := List.getElem?_eq_some_iff.1 hnext
      have hj : j ≤ s.firstEnd := by
        refine le_firstEnd hi (by omega) fun t ht => ?_
        rw [← extract_toList (by omega)] at ht
        exact (hd.within t ht).1
      obtain rfl := Option.some.inj ((current_cursorAt (by omega)).symm.trans hnext)
      refine ⟨_, passes_cursorAt hij hj, hd, Rank.operator_eq_none_iff.2 hop, ?_⟩
      rwa [Cursor.StopsAfter, endsInName_extract hlt (by omega)]
  · intro c h
    obtain ⟨used, hp, -⟩ := (reads c).1 h
    obtain ⟨j, -, hj, -, hc⟩ := (passes_cursorAt_iff hi).1 hp
    exact ⟨j, hj, hc⟩

/-- The tokens of `; x + y * z ;`. -/
def sumOfProduct : Stream :=
  ofKinds [.char ';', .identifier "x", .char '+', .identifier "y", .char '*', .identifier "z",
    .char ';']

theorem readExpression_sumOfProduct : 1 ≤ sumOfProduct.firstEnd ∧
    (sumOfProduct.cursorAt 1).readExpression (some nestingLimit) =
      .ok (.binary ⟨"", 1, 3⟩ '+' (.reference ⟨"", 1, 2⟩ "x")
        (.binary ⟨"", 1, 5⟩ '*' (.reference ⟨"", 1, 4⟩ "y") (.reference ⟨"", 1, 6⟩ "z")),
        sumOfProduct.cursorAt 6) := by
  have hi : 1 ≤ sumOfProduct.firstEnd := by decide
  refine ⟨hi, ((readExpression_eq_ok_iff sumOfProduct 1 _ hi).1 6).2 ⟨by decide, ?_, ?_⟩⟩
  · have x : Derives .sum nestingLimit [⟨.identifier "x", "", 1, 2⟩] (.reference ⟨"", 1, 2⟩ "x") :=
      .lift nofun (.lift nofun (.reference rfl))
    have y : Derives .product nestingLimit [⟨.identifier "y", "", 1, 4⟩]
        (.reference ⟨"", 1, 4⟩ "y") :=
      .lift nofun (.reference rfl)
    have z : Derives .primary nestingLimit [⟨.identifier "z", "", 1, 6⟩]
        (.reference ⟨"", 1, 6⟩ "z") :=
      .reference rfl
    have product : Derives .product nestingLimit _ (.binary ⟨"", 1, 5⟩ '*' _ _) :=
      y.apply (t := ⟨.char '*', "", 1, 5⟩) rfl (by decide) z
    exact .lift nofun (x.apply (t := ⟨.char '+', "", 1, 3⟩) rfl (by decide) product)
  · exact ⟨⟨.char ';', "", 1, 7⟩, rfl, by simp⟩

end Token.Stream

end Kaleidoscope
