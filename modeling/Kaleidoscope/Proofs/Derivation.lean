import Kaleidoscope.Proofs.Chain
import Kaleidoscope.Proofs.Grammar

/-!
Derivations as chains. An expression of any rank is primaries with operators between them, and its
tree is the tree of that chain (`derives_iff`). So the left recursion of the grammar, which no
reader follows, is gone, and what is left of a derivation is where the primaries are.
-/

namespace Kaleidoscope

namespace Rank

/-- How strongly the operators of the rank bind. A primary binds stronger than all of them. -/
def precedence : Rank → Nat
  | comparison => 10
  | sum => 20
  | product => 40
  | primary => 41

variable {r r' : Rank}

theorem precedence_lt_tighter (h : r ≠ .primary) : r.precedence < r.tighter.precedence := by
  cases r with
  | primary => contradiction
  | _ => decide

theorem precedence_le_tighter (r : Rank) : r.precedence ≤ r.tighter.precedence := by
  cases r <;> decide

theorem precedence_le_primary (r : Rank) : r.precedence ≤ Rank.primary.precedence := by
  cases r <;> decide

theorem eq_or_tighter_le (h : r.precedence ≤ r'.precedence) :
    r = r' ∨ r ≠ .primary ∧ r.tighter.precedence ≤ r'.precedence := by
  cases r <;> cases r' <;> simp_all [precedence, tighter]

theorem operator_of_mem {k : Token.Kind} {op : Char} (hk : k = .char op)
    (h : op ∈ r.operators) : k.operator? = some (op, r.precedence) := by
  subst hk
  cases r <;> simp only [operators, List.mem_cons, List.not_mem_nil, or_false] at h
  · subst h
    rfl
  · rcases h with rfl | rfl <;> rfl
  · subst h
    rfl

theorem exists_of_operator {k : Token.Kind} {op : Char} {q : Nat}
    (h : k.operator? = some (op, q)) :
    ∃ r : Rank, k = .char op ∧ op ∈ r.operators ∧ r.precedence = q := by
  cases k with
  | char c =>
      simp only [Token.Kind.operator?, Option.map_eq_some_iff, Prod.mk.injEq] at h
      obtain ⟨p, hp, rfl, rfl⟩ := h
      unfold precedence? at hp
      split at hp
      · exact ⟨.comparison, by simp_all [operators, precedence]⟩
      · split at hp
        · exact ⟨.sum, by simp_all [operators, precedence]⟩
        · split at hp
          · exact ⟨.product, by simp_all [operators, precedence]⟩
          · contradiction
  | _ => contradiction

/-- The operators of the ranks are all the operators. -/
theorem operator_eq_none_iff {k : Token.Kind} :
    k.operator? = none ↔ ∀ op ∈ ['<', '+', '-', '*'], k ≠ .char op := by
  constructor
  · rintro h op hop rfl
    simp only [List.mem_cons, List.not_mem_nil, or_false] at hop
    rcases hop with rfl | rfl | rfl | rfl <;> exact absurd h (by decide)
  · intro h
    refine Option.eq_none_iff_forall_ne_some.2 fun ⟨op, q⟩ hk => ?_
    obtain ⟨rank, hk, hop, -⟩ := exists_of_operator hk
    refine h op ?_ hk
    cases rank <;> simp_all [operators]

theorem ne_primary_of_mem {op : Char} (h : op ∈ r.operators) : r ≠ .primary := by
  rintro rfl
  contradiction

/-- There are no precedences between those of a rank and of the next tighter one. -/
theorem tighter_le_of_lt {k : Token.Kind} {o : Char × Nat} (hk : k.operator? = some o)
    (h : r.precedence < o.2) : r.tighter.precedence ≤ o.2 := by
  obtain ⟨r', -, -, hr'⟩ := exists_of_operator hk
  rw [← hr'] at h ⊢
  rcases eq_or_tighter_le (Nat.le_of_lt h) with rfl | ⟨-, h'⟩
  · exact absurd h (Nat.lt_irrefl _)
  · exact h'

end Rank

/-- Primaries with operators between them: the tree of the first and the links that follow it. -/
inductive Operands (n : Nat) : List Token → Expr → List Link → Prop
  | one {ts : List Token} {a : Expr} : Derives .primary n ts a → Operands n ts a []
  | more {ts us : List Token} {t : Token} {op : Char} {q : Nat} {a b : Expr} {links : List Link} :
      Derives .primary n ts a → t.kind.operator? = some (op, q) → Operands n us b links →
      Operands n (ts ++ t :: us) a (⟨t.location, op, q, b⟩ :: links)

namespace Operands

variable {n : Nat} {ts us : List Token} {a b e : Expr} {links links' : List Link}

theorem ne_nil (h : Operands n ts a links) : ts ≠ [] := by
  cases h with
  | one h => exact h.ne_nil
  | more _ _ _ => simp

theorem operator (h : Operands n ts a links) :
    ∀ l ∈ links, ∃ k : Token.Kind, k.operator? = some (l.op, l.precedence) := by
  induction h with
  | one => simp
  | @more _ _ t _ _ _ _ _ _ hk _ ih =>
      intro l hl
      rcases List.mem_cons.1 hl with rfl | hl
      · exact ⟨t.kind, hk⟩
      · exact ih l hl

theorem append {t : Token} {op : Char} {q : Nat} (h : Operands n ts a links)
    (hk : t.kind.operator? = some (op, q)) (h' : Operands n us b links') :
    Operands n (ts ++ t :: us) a (links ++ ⟨t.location, op, q, b⟩ :: links') := by
  induction h with
  | one h => exact .more h hk h'
  | more h hk₁ _ ih => simpa using Operands.more h hk₁ ih

theorem split {before after : List Link} {link : Link}
    (h : Operands n ts a (before ++ link :: after)) :
    ∃ ts₁ t ts₂, ts = ts₁ ++ t :: ts₂ ∧ t.location = link.location ∧
      t.kind.operator? = some (link.op, link.precedence) ∧
      Operands n ts₁ a before ∧ Operands n ts₂ link.operand after := by
  induction before generalizing ts a with
  | nil =>
      cases h with
      | more h hk h' => exact ⟨_, _, _, rfl, rfl, hk, .one h, h'⟩
  | cons first before ih =>
      cases h with
      | @more ts₀ _ t₀ _ _ _ _ _ h hk h' =>
          obtain ⟨ts₁, t, ts₂, rfl, hl, hk', h₁, h₂⟩ := ih h'
          exact ⟨ts₀ ++ t₀ :: ts₁, t, ts₂, by simp, hl, hk', .more h hk h₁, h₂⟩

end Operands

namespace Derives

variable {n : Nat} {ts : List Token} {e : Expr}

theorem loosen {r r' : Rank} (h : Derives r' n ts e) (hr : r.precedence ≤ r'.precedence) :
    Derives r n ts e := by
  rcases Rank.eq_or_tighter_le hr with rfl | ⟨hp, hr⟩
  · exact h
  · exact .lift hp (h.loosen hr)
termination_by Rank.primary.precedence - r.precedence
decreasing_by
  have := Rank.precedence_lt_tighter hp
  have := r.tighter.precedence_le_primary
  omega

theorem operands {r : Rank} (h : Derives r n ts e) : ∃ a links, Operands n ts a links ∧
    (∀ l ∈ links, r.precedence ≤ l.precedence) ∧ Grouped a links e := by
  induction h with
  | @lift r _ _ _ _ _ ih =>
      obtain ⟨a, links, ho, hl, hg⟩ := ih
      exact ⟨a, links, ho, fun l h => Nat.le_trans r.precedence_le_tighter (hl l h), hg⟩
  | @apply r n ts us t op a b _ hk hop _ ih ih' =>
      obtain ⟨left, before, ho, hl, hg⟩ := ih
      obtain ⟨right, after, ho', hl', hg'⟩ := ih'
      have htight : ∀ l ∈ after, r.precedence < l.precedence := fun l h =>
        Nat.lt_of_lt_of_le (Rank.precedence_lt_tighter (Rank.ne_primary_of_mem hop)) (hl' l h)
      refine ⟨left, before ++ ⟨t.location, op, r.precedence, right⟩ :: after,
        ho.append (Rank.operator_of_mem hk hop) ho', ?_, ?_⟩
      · intro l h
        simp only [List.mem_append, List.mem_cons] at h
        rcases h with h | rfl | h
        · exact hl l h
        · exact Nat.le_refl _
        · exact Nat.le_of_lt (htight l h)
      · have hg' : Grouped (Link.operand ⟨t.location, op, r.precedence, right⟩) after b := hg'
        exact hg.root hl hg' htight
  | number hk => exact ⟨_, [], .one (.number hk), by simp, .operand _⟩
  | reference hk => exact ⟨_, [], .one (.reference hk), by simp, .operand _⟩
  | call hk ho hs hd hz _ => exact ⟨_, [], .one (.call hk ho hs hd hz), by simp, .operand _⟩
  | nested ho hd hz _ => exact ⟨_, [], .one (.nested ho hd hz), by simp, .operand _⟩

end Derives

namespace Operands

variable {r : Rank} {n : Nat} {ts : List Token} {a e : Expr} {links : List Link}

theorem derives (h : Operands n ts a links) (hg : Grouped a links e)
    (hl : ∀ l ∈ links, r.precedence ≤ l.precedence) : Derives r n ts e := by
  induction hg generalizing ts r with
  | operand =>
      cases h with
      | one h => exact h.loosen r.precedence_le_primary
  | @root left a b before after link _ hloose _ htight ih ih' =>
      obtain ⟨ts₁, t, ts₂, rfl, hloc, hk, h₁, h₂⟩ := h.split
      obtain ⟨rank, hop, hmem, hq⟩ := Rank.exists_of_operator hk
      have hleft : Derives rank n ts₁ a := ih h₁ fun l hl => hq ▸ hloose l hl
      have hright : Derives rank.tighter n ts₂ b := by
        refine ih' h₂ fun l hl => ?_
        obtain ⟨k, hk'⟩ := h₂.operator l hl
        exact Rank.tighter_le_of_lt hk' (hq ▸ htight l hl)
      rw [← hloc]
      exact (hleft.apply hop hmem hright).loosen (hq ▸ hl link (by simp))

end Operands

/-- An expression is a chain of primaries, and its tree is the tree of the chain. -/
theorem derives_iff {r : Rank} {n : Nat} {ts : List Token} {e : Expr} : Derives r n ts e ↔
    ∃ a links, Operands n ts a links ∧ (∀ l ∈ links, r.precedence ≤ l.precedence) ∧
      Grouped a links e :=
  ⟨Derives.operands, fun ⟨_, _, h, hl, hg⟩ => h.derives hg hl⟩

/-- Comparisons are loosest, so any chain of primaries is an expression. -/
theorem derives_comparison_iff {n : Nat} {ts : List Token} {e : Expr} :
    Derives .comparison n ts e ↔ ∃ a links, Operands n ts a links ∧ Grouped a links e := by
  refine derives_iff.trans ⟨fun ⟨a, links, h, _, hg⟩ => ⟨a, links, h, hg⟩, ?_⟩
  rintro ⟨a, links, h, hg⟩
  refine ⟨a, links, h, fun l hl => ?_, hg⟩
  obtain ⟨k, hk⟩ := h.operator l hl
  obtain ⟨rank, -, -, hq⟩ := Rank.exists_of_operator hk
  rw [← hq]
  cases rank <;> decide

end Kaleidoscope
