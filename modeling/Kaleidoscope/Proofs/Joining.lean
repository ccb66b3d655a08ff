import Kaleidoscope.Proofs.Derivation
import Kaleidoscope.Proofs.Segments
import Mathlib.Data.List.Chain

/-!
Programs as the grammar sees them: statements and separators in a row. Nothing has to stand
between two statements, so the tokens of a program can be cut in several ways. The reason is
always the same: a statement that ends in a name and one that starts with a parenthesis are also
one statement, with a call in it (`DerivesStatement.join`). So a program that can be cut at all can
be cut without such a pair (`DerivesProgram.exists_apart`).
-/

namespace Kaleidoscope

/-- A separator, or what the grammar has as a statement. -/
inductive Segment.Derived (n : Nat) : Segment → Prop
  | separator {t : Token} : t.kind = .char ';' → Derived n ⟨[t], .separator⟩
  | statement {ts : List Token} {s : Statement} :
      DerivesStatement n ts s → Derived n ⟨ts, .statement s⟩

/-- The tokens can be cut into these separators and statements. -/
structure DerivesProgram (n : Nat) (ts : List Token) (segments : List Segment) : Prop where
  tokens : segments.flatMap (·.tokens) = ts
  derived : ∀ segment ∈ segments, segment.Derived n

/-- Where the segments meet there is no name in front of a parenthesis. -/
def Segment.Apart (a b : Segment) : Prop :=
  ¬(EndsInName a.tokens ∧ StartsInParenthesis b.tokens)

section

variable {n : Nat} {ts us : List Token} {t : Token} {name : String} {a b e e' : Expr}
  {links links' : List Link} {s s' : Statement} {p : Prototype} {segment : Segment}
  {segments : List Segment}

/-! ### Joining expressions -/

/-- A name in front of an expression in parentheses calls it. -/
theorem Derives.call_nested (h : Derives .primary n ts e) (hp : StartsInParenthesis ts)
    (hk : t.kind = .identifier name) : ∃ a, Derives .primary n (t :: ts) a := by
  cases h with
  | lift h _ => contradiction
  | apply _ _ h _ => contradiction
  | number h => simp [h] at hp
  | reference h => simp [h] at hp
  | call h _ _ _ _ => simp [h] at hp
  | @nested n o z ts e ho hd hz =>
      refine ⟨_, @Derives.call n t o z name ts [(ts, e)] hk ho (.one ts) ?_ hz⟩
      simpa using hd

theorem Operands.call_nested (h : Operands n ts a links) (hp : StartsInParenthesis ts)
    (hk : t.kind = .identifier name) : ∃ b, Operands n (t :: ts) b links := by
  cases h with
  | one hd =>
      obtain ⟨b, hb⟩ := hd.call_nested hp hk
      exact ⟨b, .one hb⟩
  | more hd hop ho =>
      rw [startsInParenthesis_append hd.ne_nil] at hp
      obtain ⟨b, hb⟩ := hd.call_nested hp hk
      exact ⟨b, .more hb hop ho⟩

/-- A chain that ends in a name ends with a reference, which becomes the callee. -/
theorem Operands.join (h : Operands n ts a links) (hn : EndsInName ts)
    (h' : Operands n us b links') (hp : StartsInParenthesis us) :
    ∃ c links, Operands n (ts ++ us) c links := by
  induction h with
  | one hd =>
      cases hd with
      | lift h _ => contradiction
      | apply _ _ h _ => contradiction
      | number h => simp [h] at hn
      | reference hk =>
          obtain ⟨c, hc⟩ := h'.call_nested hp hk
          exact ⟨c, links', hc⟩
      | call _ _ _ _ hz => exact absurd hn (not_endsInName_of_closing hz)
      | nested _ _ hz => exact absurd hn (not_endsInName_of_closing hz)
  | more hd hop ho ih =>
      obtain ⟨c, links, hc⟩ := ih ((endsInName_append_cons ho.ne_nil).1 hn)
      exact ⟨_, _, by simpa using Operands.more hd hop hc⟩

theorem Derives.join (h : Derives .comparison n ts e) (hn : EndsInName ts)
    (h' : Derives .comparison n us e') (hp : StartsInParenthesis us) :
    ∃ e, Derives .comparison n (ts ++ us) e := by
  obtain ⟨a, links, ho, -⟩ := derives_comparison_iff.1 h
  obtain ⟨b, links', ho', -⟩ := derives_comparison_iff.1 h'
  obtain ⟨c, links, hjoin⟩ := ho.join hn ho' hp
  obtain ⟨e, hg⟩ := Grouped.total c links
  exact ⟨e, derives_comparison_iff.2 ⟨c, links, hjoin, hg⟩⟩

/-! ### Joining statements -/

theorem DerivesPrototype.not_endsInName (h : DerivesPrototype ts p) : ¬EndsInName ts := by
  cases h with
  | intro _ _ _ hz => exact not_endsInName_of_closing hz

theorem DerivesPrototype.ne_nil (h : DerivesPrototype ts p) : ts ≠ [] := by
  cases h with
  | intro _ _ _ _ => simp

/-- Only a statement that is an expression starts with a parenthesis, and one that ends in a name
ends with an expression. -/
theorem DerivesStatement.join (h : DerivesStatement n ts s) (hn : EndsInName ts)
    (h' : DerivesStatement n us s') (hp : StartsInParenthesis us) :
    ∃ s, DerivesStatement n (ts ++ us) s := by
  cases h' with
  | definition hk _ _ => simp [hk] at hp
  | external hk _ => simp [hk] at hp
  | expression hd' =>
      cases h with
      | definition hk hproto hd =>
          rw [endsInName_append hd.ne_nil] at hn
          obtain ⟨e, he⟩ := hd.join hn hd' hp
          rw [List.append_assoc]
          exact ⟨_, .definition hk hproto he⟩
      | @external t ps p hk hproto =>
          rw [← List.singleton_append, endsInName_append hproto.ne_nil] at hn
          exact absurd hn hproto.not_endsInName
      | expression hd =>
          obtain ⟨e, he⟩ := hd.join hn hd' hp
          exact ⟨_, .expression he⟩

theorem Segment.Derived.join {a b : Segment} (ha : a.Derived n) (hb : b.Derived n)
    (h : ¬a.Apart b) : ∃ s, Segment.Derived n ⟨a.tokens ++ b.tokens, .statement s⟩ := by
  obtain ⟨hn, hp⟩ := Classical.not_not.1 h
  cases ha with
  | separator hk => simp [hk] at hn
  | statement hs =>
      cases hb with
      | separator hk => simp [hk] at hp
      | statement hs' =>
          obtain ⟨s, hjoin⟩ := hs.join hn hs' hp
          exact ⟨s, .statement hjoin⟩

theorem DerivesStatement.ne_nil (h : DerivesStatement n ts s) : ts ≠ [] := by
  cases h <;> simp

theorem Segment.Derived.tokens_ne_nil (h : segment.Derived n) : segment.tokens ≠ [] := by
  cases h with
  | separator _ => simp
  | statement h => exact h.ne_nil

/-! ### Joining the segments of a program -/

theorem derivesProgram_cons : DerivesProgram n ts (segment :: segments) ↔
    ∃ us, ts = segment.tokens ++ us ∧ segment.Derived n ∧ DerivesProgram n us segments := by
  constructor
  · rintro ⟨rfl, hd⟩
    obtain ⟨h, hd⟩ := List.forall_mem_cons.1 hd
    exact ⟨_, rfl, h, rfl, hd⟩
  · rintro ⟨_, rfl, h, rfl, hd⟩
    exact ⟨rfl, List.forall_mem_cons.2 ⟨h, hd⟩⟩

/-- Joining from the back: what follows a segment is apart already, and where the segment joins
with the first of what follows, the two end as that one did. -/
theorem DerivesProgram.exists_apart (h : DerivesProgram n ts segments) :
    ∃ segments', DerivesProgram n ts segments' ∧ segments'.IsChain Segment.Apart := by
  induction segments generalizing ts with
  | nil => exact ⟨[], h, .nil⟩
  | cons a rest ih =>
      obtain ⟨us, rfl, ha, hrest⟩ := derivesProgram_cons.1 h
      obtain ⟨rest', hrest', hchain⟩ := ih hrest
      have hcons := derivesProgram_cons.2 ⟨us, rfl, ha, hrest'⟩
      cases rest' with
      | nil => exact ⟨[a], hcons, .singleton a⟩
      | cons b more =>
          by_cases hab : a.Apart b
          · exact ⟨a :: b :: more, hcons, .cons_cons hab hchain⟩
          · obtain ⟨vs, rfl, hb, hmore⟩ := derivesProgram_cons.1 hrest'
            obtain ⟨s, hjoin⟩ := ha.join hb hab
            rw [← List.append_assoc]
            refine ⟨_, derivesProgram_cons.2 ⟨vs, rfl, hjoin, hmore⟩, ?_⟩
            -- the join ends as `b` does, so it is apart from what `b` was apart from
            cases more with
            | nil => exact .singleton _
            | cons c more =>
                obtain ⟨hbc, hc⟩ := List.isChain_cons_cons.1 hchain
                refine .cons_cons ?_ hc
                rwa [Segment.Apart, endsInName_append hb.tokens_ne_nil]

end

end Kaleidoscope
