import Kaleidoscope.Statement.Basic
import Kaleidoscope.Token.Basic

/-!
The grammar, over lists of tokens and without a cursor.

    E ::= R | E '<' R
    R ::= M | R ('+' | '-') M
    M ::= P | M '*' P
    P ::= Number | Identifier | Identifier '(' [E {',' E}] ')' | '(' E ')'

The first three lines have one shape, so a derivation is indexed by a `Rank` and they are two
rules. It is also indexed by a bound on how many expressions are inside one another: the whole
expression counts one, an expression in parentheses or an argument one more than the expression
around it. `Derives r n ts e` says that the tokens are an expression of that rank within that
bound and that `e` is its tree.
-/

namespace Kaleidoscope

/-- Comparisons, sums, products, and what stands between operators. -/
inductive Rank where
  | comparison
  | sum
  | product
  | primary

namespace Rank

/-- The rank of a right operand. -/
def tighter : Rank → Rank
  | comparison => sum
  | sum => product
  | product => primary
  | primary => primary

def operators : Rank → List Char
  | comparison => ['<']
  | sum => ['+', '-']
  | product => ['*']
  | primary => []

end Rank

/-- Stretches of tokens with a comma between any two. -/
inductive Separated : List (List Token) → List Token → Prop
  | none : Separated [] []
  | one (ts : List Token) : Separated [ts] ts
  | more {ts us vs : List Token} {rest : List (List Token)} {t : Token} :
      t.kind = .char ',' → Separated (us :: rest) vs → Separated (ts :: us :: rest) (ts ++ t :: vs)

inductive Derives : Rank → Nat → List Token → Expr → Prop
  | lift {r : Rank} {n : Nat} {ts : List Token} {e : Expr} :
      r ≠ .primary → Derives r.tighter n ts e → Derives r n ts e
  | apply {r : Rank} {n : Nat} {ts us : List Token} {t : Token} {op : Char} {a b : Expr} :
      Derives r n ts a → t.kind = .char op → op ∈ r.operators → Derives r.tighter n us b →
      Derives r n (ts ++ t :: us) (.binary t.location op a b)
  | number {n : Nat} {t : Token} {value : Binary64} :
      t.kind = .number value → Derives .primary (n + 1) [t] (.number t.location value)
  | reference {n : Nat} {t : Token} {name : String} :
      t.kind = .identifier name → Derives .primary (n + 1) [t] (.reference t.location name)
  | call {n : Nat} {t o z : Token} {name : String} {ts : List Token}
      {arguments : List (List Token × Expr)} :
      t.kind = .identifier name → o.kind = .char '(' → Separated (arguments.map (·.1)) ts →
      (∀ a ∈ arguments, Derives .comparison n a.1 a.2) → z.kind = .char ')' →
      Derives .primary (n + 1) (t :: o :: ts ++ [z]) (.call t.location name (arguments.map (·.2)))
  | nested {n : Nat} {o z : Token} {ts : List Token} {e : Expr} :
      o.kind = .char '(' → Derives .comparison n ts e → z.kind = .char ')' →
      Derives .primary (n + 1) (o :: ts ++ [z]) e

/-- Any number of things, each derived by `p`, with a comma between any two. -/
def Listed {α : Type} (p : List Token → α → Prop) (ts : List Token) (xs : List α) : Prop :=
  ∃ pieces : List (List Token × α), pieces.map (·.2) = xs ∧ Separated (pieces.map (·.1)) ts ∧
    ∀ a ∈ pieces, p a.1 a.2

/-- One identifier. -/
def DerivesName (ts : List Token) (name : String) : Prop :=
  ∃ t, ts = [t] ∧ t.kind = .identifier name

/-- A name and parameters in parentheses. -/
inductive DerivesPrototype : List Token → Prototype → Prop
  | intro {t o z : Token} {name : String} {ts : List Token} {parameters : List String} :
      t.kind = .identifier name → o.kind = .char '(' → Listed DerivesName ts parameters →
      z.kind = .char ')' → DerivesPrototype (t :: o :: ts ++ [z]) ⟨t.location, name, parameters⟩

/-- A statement whose expression is within the bound on expressions inside one another. -/
inductive DerivesStatement (n : Nat) : List Token → Statement → Prop
  | definition {t : Token} {ps ts : List Token} {p : Prototype} {e : Expr} :
      t.kind = .defWord → DerivesPrototype ps p → Derives .comparison n ts e →
      DerivesStatement n (t :: ps ++ ts) (.definition ⟨p, e⟩)
  | external {t : Token} {ps : List Token} {p : Prototype} :
      t.kind = .externWord → DerivesPrototype ps p → DerivesStatement n (t :: ps) (.external p)
  | expression {t : Token} {ts : List Token} {e : Expr} :
      Derives .comparison n (t :: ts) e →
      DerivesStatement n (t :: ts) (.expression ⟨.anonymous t.location, e⟩)

/-! ### Where stretches of tokens start and end -/

namespace Token.Kind

/-- The kinds of token that an expression starts with. -/
def StartsExpression : Kind → Prop
  | number _ => True
  | identifier _ => True
  | char c => c = '('
  | _ => False

end Token.Kind

/-- The last token is an identifier. -/
def EndsInName (ts : List Token) : Prop :=
  ∃ t ∈ ts.getLast?, ∃ name, t.kind = .identifier name

/-- The first token is an opening parenthesis. -/
def StartsInParenthesis (ts : List Token) : Prop :=
  ∃ t ∈ ts.head?, t.kind = .char '('

@[simp] theorem startsInParenthesis_cons {ts : List Token} {t : Token} :
    StartsInParenthesis (t :: ts) ↔ t.kind = .char '(' := by
  simp [StartsInParenthesis]

theorem startsInParenthesis_append {ts us : List Token} (h : ts ≠ []) :
    StartsInParenthesis (ts ++ us) ↔ StartsInParenthesis ts := by
  obtain ⟨t, rest, rfl⟩ := List.exists_cons_of_ne_nil h
  rw [List.cons_append, startsInParenthesis_cons, startsInParenthesis_cons]

@[simp] theorem endsInName_concat {ts : List Token} {t : Token} :
    EndsInName (ts ++ [t]) ↔ ∃ name, t.kind = .identifier name := by
  simp [EndsInName]

@[simp] theorem endsInName_singleton {t : Token} :
    EndsInName [t] ↔ ∃ name, t.kind = .identifier name := by
  simp [EndsInName]

/-- What a parenthesis closes does not end in a name. -/
theorem not_endsInName_of_closing {ts : List Token} {z : Token} (hz : z.kind = .char ')') :
    ¬EndsInName (ts ++ [z]) := by
  simp [hz]

theorem endsInName_append {ts us : List Token} (h : us ≠ []) :
    EndsInName (ts ++ us) ↔ EndsInName us := by
  obtain rfl | ⟨init, t, rfl⟩ := us.eq_nil_or_concat
  · contradiction
  · rw [List.concat_eq_append, ← List.append_assoc, endsInName_concat, endsInName_concat]

theorem endsInName_append_cons {ts us : List Token} {t : Token} (h : us ≠ []) :
    EndsInName (ts ++ t :: us) ↔ EndsInName us := by
  rw [endsInName_append (List.cons_ne_nil t us), ← List.singleton_append, endsInName_append h]

theorem endsInName_extract {ts : List Token} {i j : Nat} (hij : i < j) (hj : j ≤ ts.length) :
    EndsInName (ts.extract i j) ↔ ∃ t ∈ ts[j - 1]?, ∃ name, t.kind = .identifier name := by
  have hlast : (ts.extract i j).getLast? = ts[j - 1]? := by
    rw [List.getLast?_eq_getElem?, List.extract_eq_take_drop, List.length_take, List.length_drop,
      List.getElem?_take, if_pos (by omega), List.getElem?_drop]
    congr 1
    omega
  rw [EndsInName, hlast]

theorem Separated.mem {pieces : List (List Token)} {ts : List Token} (h : Separated pieces ts)
    {t : Token} (ht : t ∈ ts) : t.kind = .char ',' ∨ ∃ piece ∈ pieces, t ∈ piece := by
  induction h with
  | none => contradiction
  | one us => exact .inr ⟨us, by simp, ht⟩
  | @more us vs ws rest comma hcomma _ ih =>
      rcases List.mem_append.1 ht with ht | ht
      · exact .inr ⟨us, by simp, ht⟩
      · rcases List.mem_cons.1 ht with rfl | ht
        · exact .inl hcomma
        · obtain hk | ⟨piece, hp, hm⟩ := ih ht
          · exact .inl hk
          · exact .inr ⟨piece, List.mem_cons_of_mem _ hp, hm⟩

namespace Listed

variable {α : Type} {p : List Token → α → Prop} {ts : List Token} {x y : α} {xs : List α}

theorem nil_iff : Listed p ts [] ↔ ts = [] := by
  constructor
  · rintro ⟨pieces, hx, hs, -⟩
    obtain rfl := List.map_eq_nil_iff.1 hx
    cases hs
    rfl
  · rintro rfl
    exact ⟨[], rfl, .none, by simp⟩

theorem singleton_iff : Listed p ts [x] ↔ p ts x := by
  constructor
  · rintro ⟨pieces, hx, hs, hp⟩
    obtain ⟨a, rfl, rfl⟩ := List.map_eq_singleton_iff.1 hx
    cases hs
    exact hp a (by simp)
  · intro h
    exact ⟨[(ts, x)], rfl, .one ts, by simpa using h⟩

theorem cons_iff : Listed p ts (x :: y :: xs) ↔
    ∃ us t vs, ts = us ++ t :: vs ∧ t.kind = .char ',' ∧ p us x ∧ Listed p vs (y :: xs) := by
  constructor
  · rintro ⟨pieces, hx, hs, hp⟩
    obtain ⟨a, rest, rfl, rfl, hy⟩ := List.map_eq_cons_iff.1 hx
    obtain ⟨b, rest, rfl, rfl, rfl⟩ := List.map_eq_cons_iff.1 hy
    cases hs with
    | more hk hs =>
        exact ⟨_, _, _, rfl, hk, hp a (by simp), b :: rest, rfl, hs,
          fun c hc => hp c (List.mem_cons_of_mem a hc)⟩
  · rintro ⟨us, t, vs, rfl, hk, hx, pieces, hy, hs, hp⟩
    obtain ⟨b, rest, rfl, rfl, rfl⟩ := List.map_eq_cons_iff.1 hy
    refine ⟨(us, x) :: b :: rest, rfl, .more hk hs, ?_⟩
    intro c hc
    rcases List.mem_cons.1 hc with rfl | hc
    · exact hx
    · exact hp c hc

theorem mem (h : Listed p ts xs) {t : Token} (ht : t ∈ ts) :
    t.kind = .char ',' ∨ ∃ us x, p us x ∧ t ∈ us := by
  obtain ⟨pieces, -, hs, hp⟩ := h
  obtain hc | ⟨piece, hm, ht⟩ := hs.mem ht
  · exact .inl hc
  · obtain ⟨a, ha, rfl⟩ := List.mem_map.1 hm
    exact .inr ⟨a.1, a.2, hp a ha, ht⟩

end Listed

namespace Derives

variable {r : Rank} {n : Nat} {ts : List Token} {e : Expr}

theorem pos (h : Derives r n ts e) : 0 < n := by
  induction h with
  | lift _ _ ih => exact ih
  | apply _ _ _ _ ih _ => exact ih
  | number | reference | call | nested => exact Nat.succ_pos _

/-- A bound may be larger than it has to be. -/
theorem mono {n' : Nat} (h : Derives r n ts e) (hn : n ≤ n') : Derives r n' ts e := by
  induction h generalizing n' with
  | lift hr _ ih => exact .lift hr (ih hn)
  | apply _ hk hop _ ih ih' => exact .apply (ih hn) hk hop (ih' hn)
  | number hk =>
      obtain ⟨n', rfl⟩ := Nat.exists_eq_add_of_le' hn
      exact .number hk
  | reference hk =>
      obtain ⟨n', rfl⟩ := Nat.exists_eq_add_of_le' hn
      exact .reference hk
  | @call n _ _ _ _ _ _ hk ho hs _ hz ih =>
      obtain ⟨d, rfl⟩ := Nat.exists_eq_add_of_le' hn
      exact .call hk ho hs (fun a ha => ih a ha (Nat.le_add_left n d)) hz
  | @nested n _ _ _ _ ho _ hz ih =>
      obtain ⟨d, rfl⟩ := Nat.exists_eq_add_of_le' hn
      exact .nested ho (ih (Nat.le_add_left n d)) hz

theorem head (h : Derives r n ts e) : ∃ t rest, ts = t :: rest ∧ t.kind.StartsExpression := by
  induction h with
  | lift _ _ ih => exact ih
  | @apply _ _ _ us t _ _ _ _ _ _ _ ih _ =>
      obtain ⟨first, rest, rfl, hk⟩ := ih
      exact ⟨first, rest ++ t :: us, rfl, hk⟩
  | number hk => exact ⟨_, _, rfl, by rw [hk]; trivial⟩
  | reference hk => exact ⟨_, _, rfl, by rw [hk]; trivial⟩
  | call hk => exact ⟨_, _, rfl, by rw [hk]; trivial⟩
  | nested hk => exact ⟨_, _, rfl, by rw [hk]; rfl⟩

theorem ne_nil (h : Derives r n ts e) : ts ≠ [] := by
  obtain ⟨t, rest, rfl, -⟩ := h.head
  exact List.cons_ne_nil t rest

/-- No token of an expression ends the input or a statement. -/
theorem within (h : Derives r n ts e) : ∀ t ∈ ts, t.kind ≠ .endOfInput ∧ t.kind ≠ .char ';' := by
  induction h with
  | lift _ _ ih => exact ih
  | @apply r _ _ _ t op _ _ _ hk hop _ ih ih' =>
      have hop : op ≠ ';' := by
        rintro rfl
        cases r <;> simp [Rank.operators] at hop
      intro u hu
      rcases List.mem_append.1 hu with hu | hu
      · exact ih u hu
      · rcases List.mem_cons.1 hu with rfl | hu
        · simpa [hk] using hop
        · exact ih' u hu
  | number hk => simp [hk]
  | reference hk => simp [hk]
  | call hk ho hs _ hz ih =>
      intro u hu
      simp only [List.cons_append, List.mem_cons, List.mem_append, List.not_mem_nil, or_false] at hu
      rcases hu with rfl | rfl | hu | rfl
      · simp [hk]
      · simp [ho]
      · obtain hc | ⟨piece, hp, hm⟩ := hs.mem hu
        · simp [hc]
        · obtain ⟨a, ha, rfl⟩ := List.mem_map.1 hp
          exact ih a ha u hm
      · simp [hz]
  | nested ho _ hz ih =>
      intro u hu
      simp only [List.cons_append, List.mem_cons, List.mem_append, List.not_mem_nil, or_false] at hu
      rcases hu with rfl | hu | rfl
      · simp [ho]
      · exact ih u hu
      · simp [hz]

end Derives

theorem DerivesPrototype.within {ts : List Token} {p : Prototype} (h : DerivesPrototype ts p) :
    ∀ t ∈ ts, t.kind ≠ .endOfInput ∧ t.kind ≠ .char ';' := by
  cases h with
  | intro hk ho hlist hz =>
      intro u hu
      simp only [List.cons_append, List.mem_cons, List.mem_append, List.not_mem_nil, or_false] at hu
      rcases hu with rfl | rfl | hu | rfl
      · simp [hk]
      · simp [ho]
      · obtain hc | ⟨_, _, ⟨t, rfl, ht⟩, hu⟩ := hlist.mem hu
        · simp [hc]
        · obtain rfl := List.mem_singleton.1 hu
          simp [ht]
      · simp [hz]

/-- No token of a statement ends it. -/
theorem DerivesStatement.within {n : Nat} {ts : List Token} {s : Statement}
    (h : DerivesStatement n ts s) : ∀ t ∈ ts, t.kind ≠ .endOfInput ∧ t.kind ≠ .char ';' := by
  cases h with
  | definition hk hproto hd =>
      intro u hu
      simp only [List.cons_append, List.mem_cons, List.mem_append] at hu
      rcases hu with rfl | hu | hu
      · simp [hk]
      · exact hproto.within u hu
      · exact hd.within u hu
  | external hk hproto =>
      intro u hu
      rcases List.mem_cons.1 hu with rfl | hu
      · simp [hk]
      · exact hproto.within u hu
  | expression hd => exact hd.within

theorem DerivesStatement.mono {n n' : Nat} {ts : List Token} {s : Statement}
    (h : DerivesStatement n ts s) (hn : n ≤ n') : DerivesStatement n' ts s := by
  cases h with
  | definition hk hproto hd => exact .definition hk hproto (hd.mono hn)
  | external hk hproto => exact .external hk hproto
  | expression hd => exact .expression (hd.mono hn)

end Kaleidoscope
