import Kaleidoscope.Proofs.Expressions

/-!
The readers of statements recognise the grammar. A prototype is read wherever it stands, since it
ends with a parenthesis; a statement is read where nothing that follows could belong to its
expression (`readItem_eq_ok_iff`). A reader gives one result, so no tokens are two statements
(`DerivesStatement.unique`).
-/

namespace Kaleidoscope

namespace Cursor

variable {limit : Option Nat} {m k : Nat} {c c₁ c' : Cursor} {used : List Token}
  {names : List String} {p : Prototype}

theorem readsNames (depth : Nat) : ReadsElements depth readName DerivesName where
  derives {c c' name} _ h := by
    rw [readName] at h
    split at h <;> rename_i hk
    · obtain ⟨rfl, rfl⟩ : _ = name ∧ c.next = c' := by simpa using h
      exact ⟨[c.current], passes_next (by simp [hk]), _, rfl, hk⟩
    · contradiction
  reads {c c' name used} _ hp hd _ := by
    obtain ⟨t, rfl, ht⟩ := hd
    obtain ⟨rfl, -, rfl⟩ := passes_singleton.1 hp
    exact readName_name ht

theorem readParameters_eq_ok_iff : c.readParameters = .ok (names, c') ↔
    ∃ ts z, names ≠ [] ∧ Listed DerivesName ts names ∧ z.kind = .char ')' ∧
      c.Passes (ts ++ [z]) c' :=
  readList_eq_ok_iff (readsNames c.depth) readParameters_andThen rfl

theorem derives_of_readPrototype (h : c.readPrototype = .ok (p, c')) :
    ∃ used, c.Passes used c' ∧ DerivesPrototype used p := by
  cases hk : c.kind with
  | identifier name =>
      rw [readPrototype_name hk] at h
      have hp := passes_next (c := c) (by simp [hk])
      by_cases ho : c.next.kind = .char '('
      · rw [afterFunctionName_open ho] at h
        have hp' := hp.trans (passes_next (c := c.next) (by simp [ho]))
        by_cases hz : c.next.next.kind = .char ')'
        · rw [afterOpening_close hz] at h
          obtain ⟨rfl, rfl⟩ : _ = p ∧ c.next.next.next = c' := by simpa using h
          have hlist : Listed DerivesName [] [] := Listed.nil_iff.2 rfl
          exact ⟨_, hp'.trans (passes_next (by simp [hz])), .intro hk ho hlist hz⟩
        · rw [afterOpening_some hz] at h
          obtain ⟨names, hread, rfl⟩ := Outcome.map_eq_ok_iff.1 h
          obtain ⟨ts, z, -, hlist, hz, hp''⟩ := readParameters_eq_ok_iff.1 hread
          exact ⟨_, hp'.trans hp'', .intro hk ho hlist hz⟩
      · rw [afterFunctionName_other ho] at h
        contradiction
  | _ =>
      rw [readPrototype_other (by simp [hk])] at h
      contradiction

theorem readPrototype_of_derives (hp : c.Passes used c') (hd : DerivesPrototype used p) :
    c.readPrototype = .ok (p, c') := by
  cases hd with
  | @intro t o z name ts names hk ho hlist hz =>
      rw [List.cons_append, List.cons_append] at hp
      obtain ⟨rfl, -, hp⟩ := passes_cons.1 hp
      obtain ⟨rfl, -, hp⟩ := passes_cons.1 hp
      rw [readPrototype_name hk, afterFunctionName_open ho]
      cases names with
      | nil =>
          obtain rfl := Listed.nil_iff.1 hlist
          obtain ⟨rfl, -, rfl⟩ := passes_singleton.1 hp
          exact afterOpening_close hz
      | cons first names =>
          have hread := readParameters_eq_ok_iff.2 ⟨ts, z, by simp, hlist, hz, hp⟩
          have hk' : c.next.next.kind ≠ .char ')' := by
            intro hk'
            simp [readParameters_andThen, readName, hk'] at hread
          rw [afterOpening_some hk', hread]
          rfl

theorem readPrototype_eq_ok_iff : c.readPrototype = .ok (p, c') ↔
    ∃ used, c.Passes used c' ∧ DerivesPrototype used p :=
  ⟨derives_of_readPrototype, fun ⟨_, hp, hd⟩ => readPrototype_of_derives hp hd⟩

theorem readItem_of_startsExpression (h : c.kind.StartsExpression) :
    c.readItem limit = (c.readBare limit).map (.statement <| .expression ·) := by
  rw [readItem]
  split <;> simp_all [Token.Kind.StartsExpression]

/-- Nothing that follows could belong to the statement. Only one that ends with an expression could
go on. -/
def EndsStatement (c : Cursor) (used : List Token) : Statement → Prop
  | .external _ => True
  | _ => c.kind.operator? = none ∧ c.StopsAfter used

theorem endsStatement_of {s : Statement} (hop : c.kind.operator? = none)
    (hstop : c.StopsAfter used) : c.EndsStatement used s := by
  cases s with
  | external p => trivial
  | definition f => exact ⟨hop, hstop⟩
  | expression f => exact ⟨hop, hstop⟩

theorem derives_of_readItem {s : Statement} (hc : c.depth + k = m)
    (h : c.readItem (some m) = .ok (.statement s, c')) :
    ∃ used, c.Passes used c' ∧ DerivesStatement k used s ∧ c'.EndsStatement used s := by
  rw [readItem] at h
  split at h <;> rename_i hk
  · simp at h
  · obtain ⟨f, hf, hs⟩ := Outcome.map_eq_ok_iff.1 h
    obtain rfl := Item.statement.inj hs
    have hp := passes_next (c := c) (by simp [hk])
    rw [readDefinition_word hk] at hf
    obtain ⟨p, c₁, hproto, hf⟩ := Outcome.andThen_eq_ok_iff.1 hf
    obtain ⟨e, he, rfl⟩ := Outcome.map_eq_ok_iff.1 hf
    obtain ⟨ps, hp', hd⟩ := readPrototype_eq_ok_iff.1 hproto
    have hp₁ := hp.trans hp'
    obtain ⟨ts, hp'', hd', hop, hstop⟩ :=
      (readsExpressions m k c₁ c' e (by rw [hp₁.depth_eq, hc])).1 he
    refine ⟨c.current :: ps ++ ts, hp₁.trans hp'', .definition hk hd hd', hop, ?_⟩
    rwa [StopsAfter, endsInName_append hd'.ne_nil]
  · obtain ⟨p, hp, hs⟩ := Outcome.map_eq_ok_iff.1 h
    obtain rfl := Item.statement.inj hs
    rw [readExtern_word hk] at hp
    obtain ⟨ps, hp', hd⟩ := readPrototype_eq_ok_iff.1 hp
    exact ⟨c.current :: ps, (passes_next (by simp [hk])).trans hp', .external hk hd, trivial⟩
  · simp at h
  · obtain ⟨f, hf, hs⟩ := Outcome.map_eq_ok_iff.1 h
    obtain rfl := Item.statement.inj hs
    obtain ⟨e, he, rfl⟩ := Outcome.map_eq_ok_iff.1 hf
    obtain ⟨ts, hp, hd, hend⟩ := (readsExpressions m k c c' e hc).1 he
    obtain ⟨t, rest, rfl, -⟩ := hd.head
    obtain ⟨rfl, -⟩ := passes_cons.1 hp
    exact ⟨_, hp, .expression hd, hend⟩

theorem readItem_of_derives {s : Statement} (hc : c.depth + k = m) (hp : c.Passes used c')
    (hd : DerivesStatement k used s) (he : c'.EndsStatement used s) :
    c.readItem (some m) = .ok (.statement s, c') := by
  cases hd with
  | @definition t ps ts p e hk hproto hd =>
      rw [List.cons_append] at hp
      obtain ⟨rfl, -, hp⟩ := passes_cons.1 hp
      obtain ⟨c₁, hps, hts⟩ := passes_append.1 hp
      have hdepth : c₁.depth + k = m := by rw [hps.depth_eq, depth_next, hc]
      obtain ⟨hop, hstop⟩ := he
      rw [StopsAfter, endsInName_append hd.ne_nil] at hstop
      have he := (readsExpressions m k c₁ c' e hdepth).2 ⟨ts, hts, hd, hop, hstop⟩
      rw [readItem, show c.kind = _ from hk]
      simp only [readDefinition_word (show c.kind = _ from hk),
        readPrototype_of_derives hps hproto, Outcome.andThen_ok, he]
      rfl
  | @external t ps p hk hproto =>
      obtain ⟨rfl, -, hp⟩ := passes_cons.1 hp
      rw [readItem, show c.kind = _ from hk]
      simp only [readExtern_word (show c.kind = _ from hk), readPrototype_of_derives hp hproto]
      rfl
  | @expression t ts e hd =>
      have hread := (readsExpressions m k c c' e hc).2 ⟨_, hp, hd, he⟩
      obtain ⟨rfl, -⟩ := passes_cons.1 hp
      obtain ⟨t, rest, ht, hs⟩ := hd.head
      obtain ⟨rfl, rfl⟩ := List.cons.inj ht
      rw [readItem_of_startsExpression hs, readBare, hread]
      rfl

/-- With room for `k` expressions inside one another, a statement is read where the grammar has
one within that bound and nothing that follows could belong to it. -/
theorem readItem_eq_ok_iff {s : Statement} (hc : c.depth + k = m) :
    c.readItem (some m) = .ok (.statement s, c') ↔
      ∃ used, c.Passes used c' ∧ DerivesStatement k used s ∧ c'.EndsStatement used s :=
  ⟨derives_of_readItem hc, fun ⟨_, hp, hd, he⟩ => readItem_of_derives hc hp hd he⟩

end Cursor

/-- Alone in the input, a statement is read where there is room for it. -/
theorem DerivesStatement.readItem_alone {n m : Nat} {ts : List Token} {s : Statement}
    (h : DerivesStatement n ts s) (hn : n ≤ m) (l : Location) :
    (Cursor.start ⟨ts, l⟩).readItem (some m) =
      .ok (.statement s, Token.Stream.cursorAt ⟨ts, l⟩ ts.length) := by
  let whole : Token.Stream := ⟨ts, l⟩
  have hp : (Cursor.start whole).Passes ts (whole.cursorAt ts.length) :=
    Token.Stream.passes_start fun t ht => (h.within t ht).1
  obtain ⟨hop, hstop⟩ := Cursor.ends_input whole.kind_cursorAt_length
  exact Cursor.readItem_of_derives (Nat.zero_add m) hp (h.mono hn)
    (Cursor.endsStatement_of hop (hstop ts))

/-- The grammar is unambiguous: tokens are no more than one statement, whatever the nesting. -/
theorem DerivesStatement.unique {n n' : Nat} {ts : List Token} {s s' : Statement}
    (h : DerivesStatement n ts s) (h' : DerivesStatement n' ts s') : s = s' := by
  have hread := h.readItem_alone (Nat.le_max_left n n') ⟨"", 1, 1⟩
  rw [h'.readItem_alone (Nat.le_max_right n n')] at hread
  cases hread
  rfl

theorem Derives.unique {n n' : Nat} {ts : List Token} {e e' : Expr}
    (h : Derives .comparison n ts e) (h' : Derives .comparison n' ts e') : e = e' := by
  obtain ⟨t, ts, rfl, -⟩ := h.head
  cases (DerivesStatement.expression h).unique (.expression h')
  rfl

end Kaleidoscope
