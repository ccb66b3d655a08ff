import Kaleidoscope.Proofs.Limits
import Kaleidoscope.Proofs.Parallel
import Kaleidoscope.Proofs.Printing
import Kaleidoscope.Proofs.Statements

/-!
Programs that were printed. The tokens of a printed tree derive a tree that differs from it in
nothing but locations (`Writable.derives`), so a reader with enough room for the nesting of the text
gives that tree. With less room it goes too deep (`Writable.tooDeep`): what stands in front of the
deepest part is read, since it derives within the room, and the deepest part is never skipped. So
each node of a printed program comes back, or costs one fault (`events_ofText_display`).
-/

namespace Kaleidoscope

/-- No difference but locations. -/
def Likeness.places : Likeness where
  location _ _ := True
  name := Eq
  value := Eq
  anonymous := rfl

/-! ### Tokens of given kinds -/

theorem Listed.of_kinds {α β : Type} {p : List Token → α → Prop} {R : β → α → Prop}
    {kinds : β → List Token.Kind} {xs : List β} {ts : List Token}
    (h : ∀ x ∈ xs, ∀ us : List Token, us.map (·.kind) = kinds x → ∃ a, p us a ∧ R x a)
    (hts : ts.map (·.kind) = [.char ','].intercalate (xs.map kinds)) :
    ∃ as, Listed p ts as ∧ List.Forall₂ R xs as := by
  induction xs generalizing ts with
  | nil =>
      obtain rfl := List.map_eq_nil_iff.1 hts
      exact ⟨[], Listed.nil_iff.2 rfl, .nil⟩
  | cons x xs ih =>
      obtain ⟨hx, h⟩ := List.forall_mem_cons.1 h
      cases xs with
      | nil =>
          obtain ⟨a, ha, hr⟩ := hx ts (by simpa using hts)
          exact ⟨[a], Listed.singleton_iff.2 ha, .cons hr .nil⟩
      | cons y xs =>
          rw [List.map_cons, List.map_cons, List.intercalate_cons_cons, List.append_assoc] at hts
          obtain ⟨us, ts', rfl, hus, hts⟩ := List.map_eq_append_iff.1 hts
          obtain ⟨t, vs, rfl, ht, hvs⟩ := List.map_eq_cons_iff.1 hts
          obtain ⟨a, ha, hr⟩ := hx us hus
          obtain ⟨as, hlist, has⟩ := ih h hvs
          cases has with
          | cons hr' has =>
              exact ⟨_, Listed.cons_iff.2 ⟨us, t, vs, rfl, ht, ha, hlist⟩, .cons hr (.cons hr' has)⟩

theorem Rank.exists_of_mem {op : Char} (h : op ∈ ['<', '+', '-', '*']) :
    ∃ r : Rank, op ∈ r.operators := by
  simp only [List.mem_cons, List.not_mem_nil, or_false] at h
  rcases h with rfl | rfl | rfl | rfl
  · exact ⟨.comparison, by decide⟩
  · exact ⟨.sum, by decide⟩
  · exact ⟨.sum, by decide⟩
  · exact ⟨.product, by decide⟩

namespace Expr

variable {e left right : Expr} {es arguments : List Expr} {l : Location} {op : Char}
  {callee : String} {ts : List Token}

theorem tokens_binary (h : ts.map (·.kind) = (binary l op left right).kinds) :
    ∃ o us t vs z, ts = o :: (us ++ t :: vs) ++ [z] ∧ o.kind = .char '(' ∧
      us.map (·.kind) = left.kinds ∧ t.kind = .char op ∧ vs.map (·.kind) = right.kinds ∧
      z.kind = .char ')' := by
  rw [kinds] at h
  obtain ⟨o, ts, rfl, ho, h⟩ := List.map_eq_cons_iff.1 h
  obtain ⟨us, ts, rfl, hus, h⟩ := List.map_eq_append_iff.1 h
  obtain ⟨t, ts, rfl, ht, h⟩ := List.map_eq_cons_iff.1 h
  obtain ⟨vs, ts, rfl, hvs, h⟩ := List.map_eq_append_iff.1 h
  obtain ⟨z, rfl, hz⟩ := List.map_eq_singleton_iff.1 h
  exact ⟨o, us, t, vs, z, by simp, ho, hus, ht, hvs, hz⟩

theorem tokens_call (h : ts.map (·.kind) = (call l callee arguments).kinds) :
    ∃ t o us z, ts = t :: o :: us ++ [z] ∧ t.kind = .identifier callee ∧ o.kind = .char '(' ∧
      us.map (·.kind) = listKinds arguments ∧ z.kind = .char ')' := by
  rw [kinds] at h
  obtain ⟨t, ts, rfl, ht, h⟩ := List.map_eq_cons_iff.1 h
  obtain ⟨o, ts, rfl, ho, h⟩ := List.map_eq_cons_iff.1 h
  obtain ⟨us, ts, rfl, hus, h⟩ := List.map_eq_append_iff.1 h
  obtain ⟨z, rfl, hz⟩ := List.map_eq_singleton_iff.1 h
  exact ⟨t, o, us, z, by simp, ht, ho, hus, hz⟩

/-- The tokens of a printed tree derive it. -/
theorem Writable.derives (h : e.Writable) : ∀ ts : List Token, ts.map (·.kind) = e.kinds →
    ∃ e', Derives .primary e.nesting ts e' ∧ e.Like .places e' := by
  induction h with
  | @number l value _ _ =>
      intro ts hts
      obtain ⟨t, rfl, ht⟩ := List.map_eq_singleton_iff.1 hts
      exact ⟨_, .number ht, .number trivial rfl⟩
  | @reference l name _ =>
      intro ts hts
      obtain ⟨t, rfl, ht⟩ := List.map_eq_singleton_iff.1 hts
      exact ⟨_, .reference ht, .reference trivial rfl⟩
  | @binary l op left right hop _ _ ihl ihr =>
      intro ts hts
      obtain ⟨o, us, t, vs, z, rfl, ho, hus, ht, hvs, hz⟩ := tokens_binary hts
      obtain ⟨a, ha, hla⟩ := ihl us hus
      obtain ⟨b, hb, hrb⟩ := ihr vs hvs
      obtain ⟨r, hr⟩ := Rank.exists_of_mem hop
      have ha := (ha.mono (Nat.le_max_left _ right.nesting)).loosen r.precedence_le_primary
      have hb := (hb.mono (Nat.le_max_right left.nesting _)).loosen r.tighter.precedence_le_primary
      have happly := (ha.apply ht hr hb).loosen (r := .comparison) (by cases r <;> decide)
      exact ⟨_, .nested ho happly hz, .binary trivial hla hrb⟩
  | @call l callee arguments _ _ ih =>
      intro ts hts
      obtain ⟨t, o, us, z, rfl, ht, ho, hus, hz⟩ := tokens_call hts
      rw [listKinds_eq] at hus
      have each : ∀ e ∈ arguments, ∀ us : List Token, us.map (·.kind) = e.kinds →
          ∃ e', Derives .comparison (deepest arguments) us e' ∧ e.Like .places e' := by
        intro e he us hus
        obtain ⟨e', hd, hlike⟩ := ih e he us hus
        exact ⟨e', (hd.mono (le_deepest he)).loosen (by decide), hlike⟩
      obtain ⟨es, ⟨pieces, rfl, hsep, hd⟩, hlike⟩ := Listed.of_kinds each hus
      exact ⟨_, .call ht ho hsep hd hz, .call_of_forall₂ trivial rfl hlike⟩

/-! ### Without enough room -/

/-- Where less than its nesting fits in, the primary with these tokens goes too deep. The bound on
the room counts what the primary itself stands in. -/
def GoesTooDeep (e : Expr) : Prop :=
  ∀ (m k : Nat) (c c' : Cursor) (ts : List Token), c.depth + k = m → ts.map (·.kind) = e.kinds →
    c.Passes ts c' → k + 1 < e.nesting → (c.readPrimary (some m)).TooDeep

variable {m k : Nat} {c c' : Cursor}

/-- Entering an expression goes too deep if there is no room for it, or if what is in it does. -/
theorem tooDeep_of_inside (hc : c.depth + k = m) (h : ∀ k', k = k' + 1 →
    c.descend.depth + k' = m → ((c.descend.readPrimary (some m)).andThen fun a c =>
      c.readChain (some m) 0 a).TooDeep) :
    (c.readExpression (some m)).TooDeep := by
  cases hfull : c.full (some m) with
  | true => exact ⟨_, Cursor.readExpression_full hfull, rfl⟩
  | false =>
      rw [Cursor.readExpression_room hfull]
      simp only [Cursor.full, Option.any_some, decide_eq_false_iff_not] at hfull
      obtain ⟨k, rfl⟩ : ∃ k', k = k' + 1 := ⟨k - 1, by omega⟩
      have hdepth : c.descend.depth + k = m := by
        simp only [Cursor.descend]
        omega
      exact (h k rfl hdepth).ascend

theorem tooDeep_readExpression (h : e.GoesTooDeep) (hc : c.depth + k = m)
    (hts : ts.map (·.kind) = e.kinds) (hp : c.Passes ts c') (hk : k < e.nesting) :
    (c.readExpression (some m)).TooDeep := by
  refine tooDeep_of_inside hc fun k' hk' hdepth => ?_
  subst hk'
  exact (h m k' _ _ ts hdepth hts (Cursor.passes_descend.2 hp) hk).andThen _

/-- A printed primary with enough room, in front of something other than a parenthesis. -/
theorem Writable.readPrimary (h : e.Writable) (hc : c.depth + k = m)
    (hts : ts.map (·.kind) = e.kinds) (hp : c.Passes ts c') (hk : e.nesting ≤ k + 1)
    (hs : c'.kind ≠ .char '(') :
    ∃ e', c.readPrimary (some m) = .ok (e', c') ∧ e.Like .places e' := by
  obtain ⟨e', hd, hlike⟩ := h.derives ts hts
  have hP := Cursor.readsPrimaries_of (Cursor.readsExpressions m k)
  exact ⟨e', (hP c c' e' hc).2 ⟨ts, hp, hd.mono hk, fun hstop => hs hstop.2⟩, hlike⟩

/-- A printed expression with enough room, in front of what ends an expression. -/
theorem Writable.readExpression (h : e.Writable) (hc : c.depth + k = m)
    (hts : ts.map (·.kind) = e.kinds) (hp : c.Passes ts c') (hk : e.nesting ≤ k)
    (hop : c'.kind.operator? = none) (hs : c'.kind ≠ .char '(') :
    ∃ e', c.readExpression (some m) = .ok (e', c') ∧ e.Like .places e' := by
  obtain ⟨e', hd, hlike⟩ := h.derives ts hts
  have hd := (hd.mono hk).loosen (r := .comparison) (by decide)
  have hread := (Cursor.readsExpressions m k c c' e' hc).2
    ⟨ts, hp, hd, hop, fun hstop => hs hstop.2⟩
  exact ⟨e', hread, hlike⟩

/-- The operands of a printed application: if the left one is read, the right one goes too deep. -/
theorem tooDeep_operands {us vs : List Token} {t : Token} (hop : op ∈ ['<', '+', '-', '*'])
    (hw : left.Writable) (hl : left.GoesTooDeep) (hr : right.GoesTooDeep) (hc : c.depth + k = m)
    (hus : us.map (·.kind) = left.kinds) (ht : t.kind = .char op)
    (hvs : vs.map (·.kind) = right.kinds) (hp : c.Passes (us ++ t :: vs) c')
    (hk : k + 1 < Nat.max left.nesting right.nesting) :
    ((c.readPrimary (some m)).andThen fun a c => c.readChain (some m) 0 a).TooDeep := by
  obtain ⟨c₁, hp₁, hp₂⟩ := Cursor.passes_append.1 hp
  obtain ⟨rfl, -, hp₂⟩ := Cursor.passes_cons.1 hp₂
  by_cases hleft : k + 1 < left.nesting
  · exact (hl m k c c₁ us hc hus hp₁ hleft).andThen _
  · have hleft : left.nesting ≤ k + 1 := Nat.le_of_not_lt hleft
    have hright : k + 1 < right.nesting := Nat.lt_of_not_le fun hle =>
      absurd (Nat.max_le.2 ⟨hleft, hle⟩) (Nat.not_le.2 hk)
    have ht : c₁.kind = .char op := ht
    have hpar : c₁.kind ≠ .char '(' := by
      rw [ht]
      rintro ⟨⟩
      exact absurd hop (by decide)
    obtain ⟨a, ha, -⟩ := hw.readPrimary hc hus hp₁ hleft hpar
    obtain ⟨r, hmem⟩ := Rank.exists_of_mem hop
    have hdepth : c₁.next.depth + k = m := by rw [Cursor.depth_next, hp₁.depth_eq, hc]
    have hright := hr m k c₁.next c' vs hdepth hvs hp₂ hright
    rw [ha, Outcome.andThen_ok,
      Cursor.readChain_of_operator (Rank.operator_of_mem ht hmem) (Nat.zero_le _)]
    exact hright.andThen _

theorem tooDeep_binary (hop : op ∈ ['<', '+', '-', '*']) (hw : left.Writable)
    (hl : left.GoesTooDeep) (hr : right.GoesTooDeep) : (binary l op left right).GoesTooDeep := by
  intro m k c c' ts hc hts hp hk
  obtain ⟨o, us, t, vs, z, rfl, ho, hus, ht, hvs, hz⟩ := tokens_binary hts
  rw [List.cons_append] at hp
  obtain ⟨rfl, -, hp⟩ := Cursor.passes_cons.1 hp
  obtain ⟨c₁, hp, -⟩ := Cursor.passes_append.1 hp
  rw [Cursor.readPrimary_nested ho]
  have hnext : c.next.depth + k = m := by rw [Cursor.depth_next, hc]
  refine (tooDeep_of_inside hnext fun k' hk' hdepth => ?_).andThen _
  subst hk'
  have hk : k' + 1 < Nat.max left.nesting right.nesting := Nat.lt_of_succ_lt_succ hk
  exact tooDeep_operands hop hw hl hr hdepth hus ht hvs (Cursor.passes_descend.2 hp) hk

theorem head_kinds (e : Expr) : ∃ k rest, e.kinds = k :: rest ∧ k.StartsExpression := by
  cases e with
  | binary _ _ _ _ => exact ⟨_, _, rfl, rfl⟩
  | _ => exact ⟨_, _, rfl, trivial⟩

theorem head_listKinds (h : es ≠ []) :
    ∃ k rest, listKinds es = k :: rest ∧ k.StartsExpression := by
  cases es with
  | nil => contradiction
  | cons e es =>
      obtain ⟨k, rest, hk, hs⟩ := e.head_kinds
      cases es with
      | nil => exact ⟨k, rest, hk, hs⟩
      | cons e' es => exact ⟨k, _, by rw [listKinds, hk]; rfl, hs⟩

theorem tooDeep_readArgumentList {z : Token} (hw : ∀ e ∈ es, e.Writable)
    (ih : ∀ e ∈ es, e.GoesTooDeep) (hc : c.depth + k = m) (hts : ts.map (·.kind) = listKinds es)
    (hp : c.Passes (ts ++ [z]) c') (hk : k < deepest es) :
    (c.readArgumentList (some m)).TooDeep := by
  induction es generalizing c ts with
  | nil => contradiction
  | cons e es hrest =>
      obtain ⟨hwe, hw⟩ := List.forall_mem_cons.1 hw
      obtain ⟨ihe, ih⟩ := List.forall_mem_cons.1 ih
      rw [Cursor.readArgumentList_andThen]
      cases es with
      | nil =>
          obtain ⟨c₁, hp, -⟩ := Cursor.passes_append.1 hp
          exact (tooDeep_readExpression ihe hc hts hp (by simpa [deepest] using hk)).andThen _
      | cons e' es =>
          rw [listKinds] at hts
          obtain ⟨us, ts, rfl, hus, hts⟩ := List.map_eq_append_iff.1 hts
          obtain ⟨t, vs, rfl, ht, hvs⟩ := List.map_eq_cons_iff.1 hts
          rw [List.append_assoc] at hp
          obtain ⟨c₁, hp₁, hp₂⟩ := Cursor.passes_append.1 hp
          obtain ⟨rfl, -, hp₂⟩ := Cursor.passes_cons.1 hp₂
          by_cases hfirst : k < e.nesting
          · exact (tooDeep_readExpression ihe hc hus hp₁ hfirst).andThen _
          -- the first argument is read, so the others go too deep
          · have hfirst : e.nesting ≤ k := Nat.le_of_not_lt hfirst
            have hrestDeep : k < deepest (e' :: es) := Nat.lt_of_not_le fun hle =>
              absurd (Nat.max_le.2 ⟨hfirst, hle⟩) (Nat.not_le.2 hk)
            have ht : c₁.kind = .char ',' := ht
            have hdepth : c₁.next.depth + k = m := by rw [Cursor.depth_next, hp₁.depth_eq, hc]
            obtain ⟨a, ha, -⟩ :=
              hwe.readExpression hc hus hp₁ hfirst (by rw [ht]; rfl) (by simp [ht])
            rw [ha, Outcome.andThen_ok, Cursor.afterElement_comma ht]
            exact (hrest hw ih hdepth hvs hp₂ hrestDeep).map _

theorem tooDeep_call (hw : ∀ e ∈ arguments, e.Writable) (ih : ∀ e ∈ arguments, e.GoesTooDeep) :
    (call l callee arguments).GoesTooDeep := by
  intro m k c c' ts hc hts hp hk
  obtain ⟨t, o, us, z, rfl, ht, ho, hus, hz⟩ := tokens_call hts
  rw [List.cons_append, List.cons_append] at hp
  obtain ⟨rfl, -, hp⟩ := Cursor.passes_cons.1 hp
  obtain ⟨rfl, -, hp⟩ := Cursor.passes_cons.1 hp
  have hk : k < deepest arguments := Nat.lt_of_succ_lt_succ hk
  have hdepth : c.next.next.depth + k = m := by rw [Cursor.depth_next, Cursor.depth_next, hc]
  have hlist := tooDeep_readArgumentList hw ih hdepth hus hp hk
  have hfirst : c.next.next.kind ≠ .char ')' := by
    have hne : arguments ≠ [] := by
      rintro rfl
      contradiction
    obtain ⟨first, rest, hkinds, hs⟩ := head_listKinds hne
    rw [hkinds] at hus
    obtain ⟨t, us, rfl, ht, -⟩ := List.map_eq_cons_iff.1 hus
    obtain ⟨rfl, -⟩ := Cursor.passes_cons.1 hp
    intro hclose
    rw [← ht, show c.next.next.current.kind = _ from hclose] at hs
    simp [Token.Kind.StartsExpression] at hs
  rw [Cursor.readPrimary_name ht, Cursor.afterName_call ho, Cursor.readArguments_some hfirst]
  exact hlist.map _

theorem Writable.goesTooDeep (h : e.Writable) : e.GoesTooDeep := by
  induction h with
  | number _ _ =>
      intro m k c c' ts _ _ _ hk
      simp [nesting] at hk
  | reference _ =>
      intro m k c c' ts _ _ _ hk
      simp [nesting] at hk
  | binary hop hl _ ihl ihr => exact tooDeep_binary hop hl ihl ihr
  | call _ hw ih => exact tooDeep_call hw ih

end Expr

/-! ### Nodes -/

theorem Prototype.Writable.derives {p : Prototype} {ts : List Token}
    (hts : ts.map (·.kind) = p.kinds) : ∃ p', DerivesPrototype ts p' ∧ p.Like .places p' := by
  rw [kinds] at hts
  obtain ⟨t, ts, rfl, ht, hts⟩ := List.map_eq_cons_iff.1 hts
  obtain ⟨o, ts, rfl, ho, hts⟩ := List.map_eq_cons_iff.1 hts
  obtain ⟨us, ts, rfl, hus, hts⟩ := List.map_eq_append_iff.1 hts
  obtain ⟨z, rfl, hz⟩ := List.map_eq_singleton_iff.1 hts
  have each : ∀ x ∈ p.parameters, ∀ us : List Token, us.map (·.kind) = [.identifier x] →
      ∃ y, DerivesName us y ∧ x = y := by
    intro x _ us hus
    obtain ⟨t, rfl, ht⟩ := List.map_eq_singleton_iff.1 hus
    exact ⟨x, ⟨t, rfl, ht⟩, rfl⟩
  obtain ⟨names, hlist, hsame⟩ := Listed.of_kinds each hus
  exact ⟨_, .intro ht ho hlist hz, trivial, rfl, hsame⟩

/-- A `;` or the end of the input. -/
def Cursor.Ends (c : Cursor) : Prop :=
  c.kind = .char ';' ∨ c.kind = .endOfInput

namespace Node

variable {n : Node} {ts : List Token} {m k : Nat} {c c' : Cursor}

/-- The tokens of a printed node derive a statement that gives it. -/
theorem Writable.derives (h : n.Writable) (hts : ts.map (·.kind) = n.kinds) :
    ∃ s, DerivesStatement n.nesting ts s ∧ n.Like .places s.node := by
  cases h with
  | external _ =>
      obtain ⟨t, ts, rfl, ht, hts⟩ := List.map_eq_cons_iff.1 hts
      obtain ⟨p', hp, hlike⟩ := Prototype.Writable.derives hts
      exact ⟨_, .external ht hp, .external hlike⟩
  | definition hp he =>
      rw [kinds_named hp.not_isAnonymous] at hts
      obtain ⟨t, ts, rfl, ht, hts⟩ := List.map_eq_cons_iff.1 hts
      obtain ⟨ps, us, rfl, hps, hus⟩ := List.map_eq_append_iff.1 hts
      obtain ⟨p', hp, hlike⟩ := Prototype.Writable.derives hps
      obtain ⟨e', he, hlike'⟩ := he.derives us hus
      exact ⟨_, .definition ht hp (he.loosen (by decide)), .function ⟨hlike, hlike'⟩⟩
  | @expression f hname hparameters he =>
      rw [kinds_anonymous (Prototype.isAnonymous_of_name hname)] at hts
      obtain ⟨e', he, hlike⟩ := he.derives ts hts
      obtain ⟨t, rest, rfl, -⟩ := he.head
      have hproto : f.prototype.Like .places (.anonymous t.location) :=
        ⟨trivial, hname, hparameters ▸ .nil⟩
      exact ⟨_, .expression (he.loosen (by decide)), .function ⟨hproto, hlike⟩⟩

theorem Writable.readItem (h : n.Writable) (hc : c.depth + k = m)
    (hts : ts.map (·.kind) = n.kinds) (hp : c.Passes ts c') (he : c'.Ends) (hk : n.nesting ≤ k) :
    ∃ s, c.readItem (some m) = .ok (.statement s, c') ∧ n.Like .places s.node := by
  obtain ⟨s, hd, hlike⟩ := h.derives hts
  have hop : c'.kind.operator? = none := by
    rcases he with he | he <;> rw [he] <;> rfl
  have hstop : c'.StopsAfter ts := by
    rcases he with he | he <;> simp [Cursor.StopsAfter, he]
  have hread := Cursor.readItem_of_derives hc hp (hd.mono hk) (Cursor.endsStatement_of hop hstop)
  exact ⟨s, hread, hlike⟩

theorem Writable.tooDeep (h : n.Writable) (hc : c.depth + k = m)
    (hts : ts.map (·.kind) = n.kinds) (hp : c.Passes ts c') (hk : k < n.nesting) :
    (c.readItem (some m)).TooDeep := by
  cases h with
  | external _ => contradiction
  | definition hproto he =>
      rw [kinds_named hproto.not_isAnonymous] at hts
      obtain ⟨t, ts, rfl, ht, hts⟩ := List.map_eq_cons_iff.1 hts
      obtain ⟨ps, us, rfl, hps, hus⟩ := List.map_eq_append_iff.1 hts
      obtain ⟨rfl, -, hp⟩ := Cursor.passes_cons.1 hp
      obtain ⟨c₁, hp₁, hp₂⟩ := Cursor.passes_append.1 hp
      obtain ⟨p', hd, -⟩ := Prototype.Writable.derives hps
      have hdepth : c₁.depth + k = m := by rw [hp₁.depth_eq, Cursor.depth_next, hc]
      have hbody := Expr.tooDeep_readExpression he.goesTooDeep hdepth hus hp₂ hk
      have ht : c.kind = .defWord := ht
      simp only [Cursor.readItem, ht, Cursor.readDefinition_word ht,
        Cursor.readPrototype_of_derives hp₁ hd, Outcome.andThen_ok]
      exact (hbody.map _).map _
  | @expression f hname _ he =>
      rw [kinds_anonymous (Prototype.isAnonymous_of_name hname)] at hts
      have hbody := Expr.tooDeep_readExpression he.goesTooDeep hc hts hp hk
      obtain ⟨first, rest, hkinds, hs⟩ := f.body.head_kinds
      rw [hkinds] at hts
      obtain ⟨t, ts, rfl, rfl, -⟩ := List.map_eq_cons_iff.1 hts
      obtain ⟨rfl, -⟩ := Cursor.passes_cons.1 hp
      rw [Cursor.readItem_of_startsExpression hs]
      exact (hbody.map _).map _

end Node

/-! ### Programs -/

namespace Cursor

variable {limit : Option Nat} {c c' d : Cursor} {ts us : List Token}

/-- A statement is not left before its end. -/
theorem Passes.rest (hp : c.Passes ts c') (he : c'.Ends) (hp' : c.Passes us d)
    (hs : ∀ t ∈ us, t.kind ≠ .char ';') : ∃ vs, ts = us ++ vs ∧ d.Passes vs c' := by
  induction us generalizing c ts with
  | nil =>
      obtain rfl := passes_nil.1 hp'
      exact ⟨ts, rfl, hp⟩
  | cons u us ih =>
      obtain ⟨hfirst, hrest⟩ := List.forall_mem_cons.1 hs
      obtain ⟨rfl, hend, hp'⟩ := passes_cons.1 hp'
      cases ts with
      | nil =>
          obtain rfl := passes_nil.1 hp
          exact absurd he (not_or.2 ⟨hfirst, hend⟩)
      | cons t ts =>
          obtain ⟨rfl, -, hp⟩ := passes_cons.1 hp
          obtain ⟨vs, rfl, hvs⟩ := ih hp hp' hrest
          exact ⟨vs, rfl, hvs⟩

/-- Recovering from a fault goes on where the statement ends. -/
theorem events_skipStatement (hp : c.Passes ts c') (hs : ∀ t ∈ ts, t.kind ≠ .char ';')
    (he : c'.Ends) :
    (c.skipStatement.readProgram limit).events = (c'.readProgram limit).events := by
  induction ts generalizing c with
  | nil =>
      obtain rfl := passes_nil.1 hp
      rcases he with he | he
      · rw [skipStatement_of_separator he, events_of_separator he]
      · rw [skipStatement_of_end he]
  | cons t ts ih =>
      obtain ⟨hfirst, hrest⟩ := List.forall_mem_cons.1 hs
      obtain ⟨rfl, hend, hp⟩ := passes_cons.1 hp
      rw [skipStatement_of_ne hend hfirst]
      exact ih hp hrest

end Cursor

/-- What a printed node gives, where `k` expressions may be inside one another. -/
inductive Node.Delivered (k : Nat) (n : Node) : Event → Prop
  | back {n' : Node} : n.nesting ≤ k → n.Like .places n' → Delivered k n (.node n')
  | fault {d : Diagnostic GrammarFault} :
      k < n.nesting → d.text = "expression nested too deeply" → Delivered k n (.fault d)

namespace Cursor

variable {m k : Nat} {c c' : Cursor} {ts : List Token} {n : Node} {nodes : List Node}

theorem events_node (h : n.Writable) (hc : c.depth + k = m) (hts : ts.map (·.kind) = n.kinds)
    (hp : c.Passes ts c') (he : c'.Ends) : ∃ event, n.Delivered k event ∧
      (c.readProgram (some m)).events = event :: (c'.readProgram (some m)).events := by
  by_cases hk : n.nesting ≤ k
  · obtain ⟨s, hread, hlike⟩ := h.readItem hc hts hp he hk
    exact ⟨_, .back hk hlike, events_of_statement hread⟩
  · have hk : k < n.nesting := Nat.lt_of_not_le hk
    obtain ⟨f, hread, hcause⟩ := h.tooDeep hc hts hp hk
    obtain ⟨s, hd, -⟩ := h.derives hts
    have hsep : c.kind ≠ .char ';' := by
      intro hkind
      rw [readItem_separator hkind] at hread
      contradiction
    have hstays := stays_readItem (some m) c hsep
    rw [hread] at hstays
    obtain ⟨us, hp', hus⟩ := hstays
    obtain ⟨vs, rfl, hvs⟩ := hp.rest he hp' hus
    refine ⟨.fault f.diagnostic, .fault hk ?_, ?_⟩
    · rw [Diagnostic.text, Failure.diagnostic, hcause]
      rfl
    · rw [events_of_fault hread, events_skipStatement hvs (fun t ht => ?_) he]
      exact (hd.within t (List.mem_append_right us ht)).2

theorem events_nodes (h : ∀ n ∈ nodes, n.Writable) (hc : c.depth + k = m)
    (hts : ts.map (·.kind) = [.char ';'].intercalate (nodes.map Node.kinds))
    (hp : c.Passes ts c') (he : c'.kind = .endOfInput) :
    List.Forall₂ (Node.Delivered k) nodes (c.readProgram (some m)).events := by
  induction nodes generalizing c ts with
  | nil =>
      obtain rfl := List.map_eq_nil_iff.1 hts
      obtain rfl := passes_nil.1 hp
      rw [events_of_end he]
      exact .nil
  | cons n nodes ih =>
      obtain ⟨hn, h⟩ := List.forall_mem_cons.1 h
      cases nodes with
      | nil =>
          obtain ⟨event, hevent, hevents⟩ := events_node hn hc (by simpa using hts) hp (.inr he)
          rw [hevents, events_of_end he]
          exact .cons hevent .nil
      | cons n' nodes =>
          rw [List.map_cons, List.map_cons, List.intercalate_cons_cons, List.append_assoc] at hts
          obtain ⟨us, ts, rfl, hus, hts⟩ := List.map_eq_append_iff.1 hts
          obtain ⟨t, vs, rfl, ht, hvs⟩ := List.map_eq_cons_iff.1 hts
          obtain ⟨c₁, hp₁, hp₂⟩ := passes_append.1 hp
          obtain ⟨rfl, -, hp₂⟩ := passes_cons.1 hp₂
          have ht : c₁.kind = .char ';' := ht
          obtain ⟨event, hevent, hevents⟩ := events_node hn hc hus hp₁ (.inl ht)
          have hdepth : c₁.next.depth + k = m := by rw [depth_next, hp₁.depth_eq, hc]
          rw [hevents, events_of_separator ht]
          exact .cons hevent (ih h hdepth hvs hp₂)

end Cursor

theorem Node.kinds_ne_nil (n : Node) : n.kinds ≠ [] := by
  cases n with
  | external p => simp [kinds]
  | function f =>
      obtain ⟨k, rest, hk, -⟩ := f.body.head_kinds
      rw [kinds]
      split
      · simp [hk]
      · simp

theorem intercalate_kinds_ne_nil {nodes : List Node} (h : nodes ≠ []) (between : List Token.Kind) :
    between.intercalate (nodes.map Node.kinds) ≠ [] := by
  obtain ⟨n, nodes, rfl⟩ := List.exists_cons_of_ne_nil h
  cases nodes with
  | nil => simpa using n.kinds_ne_nil
  | cons n' nodes => simp [List.intercalate_cons_cons, n.kinds_ne_nil]

/-- Printed nodes come back one after the other, each as it was up to locations if its nesting is
within the limit, and as a fault if it is not. Nothing else is delivered. -/
theorem Run.events_ofText_display (name : String) (nodes : List Node) (hne : nodes ≠ [])
    (h : ∀ n ∈ nodes, n.Writable) :
    ∃ run, Run.ofText name ("; ".intercalate (nodes.map Node.display)).toList = .ok run ∧
      List.Forall₂ (Node.Delivered nestingLimit) nodes run.events := by
  have hkinds := intercalate_kinds_ne_nil hne [.char ';']
  obtain ⟨st, hst, hkinds⟩ := (reads_nodes h).ofText_eq hkinds name
  refine ⟨st.run, by rw [Run.ofText, hst]; rfl, ?_⟩
  -- no end of the input stands among the tokens of a text
  have hend : ∀ t ∈ st.body, t.kind ≠ .endOfInput := by
    obtain ⟨kinds, hk, hlist⟩ := Token.canonical_of_ofText hst
    rw [Token.Stream.toList, List.map_append, List.map_singleton,
      List.append_cancel_right_eq] at hlist
    exact fun t ht => (hk _ (hlist ▸ List.mem_map_of_mem ht)).ne_end
  exact Cursor.events_nodes h (Nat.zero_add nestingLimit) hkinds (Token.Stream.passes_start hend)
    st.kind_cursorAt_length

/-- An external declaration and an expression that calls it. -/
def declarationAndCall : List Node :=
  [.external ⟨⟨"", 1, 1⟩, "f", ["x"]⟩,
    .function ⟨.anonymous ⟨"", 1, 1⟩, .binary ⟨"", 1, 1⟩ '+' (.reference ⟨"", 1, 1⟩ "x")
      (.call ⟨"", 1, 1⟩ "f" [.reference ⟨"", 1, 1⟩ "y"])⟩]

theorem Run.events_ofText_declarationAndCall :
    (∀ n ∈ declarationAndCall, n.Writable) ∧
      ∃ run, Run.ofText "" "extern f(x); (x + f(y))".toList = .ok run ∧
        List.Forall₂ (Node.Delivered nestingLimit) declarationAndCall run.events := by
  have f : IsName "f".toList := by decide
  have x : IsName "x".toList := by decide
  have y : IsName "y".toList := by decide
  have h : ∀ n ∈ declarationAndCall, n.Writable :=
    List.forall_mem_cons.2 ⟨.external ⟨f, by simpa using x⟩, List.forall_mem_cons.2
      ⟨.expression rfl rfl (.binary (by decide) (.reference x)
        (.call f (by simpa using .reference y))), by simp⟩⟩
  exact ⟨h, Run.events_ofText_display "" declarationAndCall (by simp [declarationAndCall]) h⟩

end Kaleidoscope
