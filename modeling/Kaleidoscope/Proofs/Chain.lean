import Kaleidoscope.Proofs.Continuations

/-!
Chains of operators with opaque operands. A chain is an operand and the links that follow it, each
an operator with its right operand. `Grouped` gives its tree by looking at the chain as a whole:
the root is the last of its loosest operators. `readChain` never looks so far ahead, and
`readChain_eq_ok_iff` says that it builds that tree all the same, for any threshold, and where it
stops.
-/

namespace Kaleidoscope

/-- An operator and its right operand. -/
structure Link where
  location : Location
  op : Char
  precedence : Nat
  operand : Expr

/-- The tree of an operand and the links that follow it. -/
inductive Grouped : Expr → List Link → Expr → Prop
  | operand (e : Expr) : Grouped e [] e
  | root {left a b : Expr} {before after : List Link} {link : Link} :
      Grouped left before a → (∀ l ∈ before, link.precedence ≤ l.precedence) →
      Grouped link.operand after b → (∀ l ∈ after, link.precedence < l.precedence) →
      Grouped left (before ++ link :: after) (.binary link.location link.op a b)

namespace Grouped

/-- A first link whose right operand has been grouped with all that binds tighter can be read
as a new left operand. -/
theorem prepend {left b e : Expr} {link : Link} {mid links : List Link}
    (hb : Grouped link.operand mid b) (hmid : ∀ l ∈ mid, link.precedence < l.precedence)
    (he : Grouped (.binary link.location link.op left b) links e)
    (hhead : ∀ l ∈ links.head?, l.precedence ≤ link.precedence) :
    Grouped left (link :: mid ++ links) e := by
  generalize hroot : Expr.binary link.location link.op left b = root at he
  induction he with
  | operand =>
      subst hroot
      simpa using (Grouped.operand left).root (by simp) hb hmid
  | @root _ _ _ before after last hbefore hloose hafter htight ih _ =>
      -- the root stays where it is: it is no tighter than `link`, and `mid` is tighter
      have hlast : last.precedence ≤ link.precedence := by
        cases before with
        | nil => exact hhead last (by simp)
        | cons first rest => exact Nat.le_trans (hloose first (by simp)) (hhead first (by simp))
      have hfront : Grouped left (link :: mid ++ before) _ :=
        ih (fun l hl => hhead l (by cases before <;> simp_all)) hroot
      have := hfront.root ?_ hafter htight
      · simpa using this
      · intro l hl
        simp only [List.cons_append, List.mem_cons, List.mem_append] at hl
        rcases hl with rfl | hl | hl
        · exact hlast
        · exact Nat.le_trans hlast (Nat.le_of_lt (hmid l hl))
        · exact hloose l hl

/-- A chain that is not a lone operand has a last loosest operator. -/
theorem exists_root (links : List Link) (h : links ≠ []) : ∃ before link after,
    links = before ++ link :: after ∧ (∀ l ∈ before, link.precedence ≤ l.precedence) ∧
      ∀ l ∈ after, link.precedence < l.precedence := by
  induction links with
  | nil => contradiction
  | cons first rest ih =>
      by_cases hr : rest = []
      · exact ⟨[], first, [], by simp [hr]⟩
      · obtain ⟨before, link, after, rfl, hbefore, hafter⟩ := ih hr
        by_cases hle : link.precedence ≤ first.precedence
        · exact ⟨first :: before, link, after, rfl, by simpa using ⟨hle, hbefore⟩, hafter⟩
        -- the first operator is looser than the loosest of the others
        · refine ⟨[], first, before ++ link :: after, rfl, by simp, ?_⟩
          intro l hl
          rcases List.mem_append.1 hl with hl | hl
          · have := hbefore l hl
            omega
          · rcases List.mem_cons.1 hl with rfl | hl
            · omega
            · have := hafter l hl
              omega

/-- Every chain has a tree. -/
theorem total (left : Expr) (links : List Link) : ∃ e, Grouped left links e := by
  induction hn : links.length using Nat.strongRecOn generalizing left links with
  | ind n ih =>
      by_cases h : links = []
      · exact ⟨left, h ▸ .operand left⟩
      · obtain ⟨before, link, after, rfl, hbefore, hafter⟩ := exists_root links h
        simp only [List.length_append, List.length_cons] at hn
        obtain ⟨a, ha⟩ := ih before.length (by omega) left before rfl
        obtain ⟨b, hb⟩ := ih after.length (by omega) link.operand after rfl
        exact ⟨_, ha.root hbefore hb hafter⟩

end Grouped

namespace Cursor

variable {limit : Option Nat} {c c₁ c₂ c' : Cursor} {p q : Nat} {op : Char}
variable {left right right' e : Expr} {links : List Link}

/-- The links that start at a cursor, each operand being what `readPrimary` reads. -/
inductive Chained (limit : Option Nat) : Cursor → List Link → Cursor → Prop
  | nil (c : Cursor) : Chained limit c [] c
  | cons {c c₁ c' : Cursor} {op : Char} {q : Nat} {operand : Expr} {links : List Link} :
      c.kind.operator? = some (op, q) → c.next.readPrimary limit = .ok (operand, c₁) →
      Chained limit c₁ links c' → Chained limit c (⟨c.location, op, q, operand⟩ :: links) c'

theorem chained_append {links' : List Link} : c.Chained limit (links ++ links') c' ↔
    ∃ c₁, c.Chained limit links c₁ ∧ c₁.Chained limit links' c' := by
  constructor
  · intro h
    induction links generalizing c with
    | nil => exact ⟨c, .nil c, h⟩
    | cons link links ih =>
        cases h with
        | cons hk hr h =>
            obtain ⟨c₁, h₁, h₂⟩ := ih h
            exact ⟨c₁, .cons hk hr h₁, h₂⟩
  · rintro ⟨c₁, h, h'⟩
    induction h with
    | nil => exact h'
    | cons hk hr _ ih => exact .cons hk hr (ih h')

/-- Where a chain stops, its next link could only be looser. -/
theorem Chained.head_lt (h : c.Chained limit links c') (hs : c.kind.StopsAt p) :
    ∀ l ∈ links.head?, l.precedence < p := by
  cases h with
  | nil => simp
  | cons hk => simpa using hs _ hk

/-- One link: its operand takes all that binds tighter, and the chain goes on behind it. -/
theorem readChain_link (hk : c.kind.operator? = some (op, q)) (hp : p ≤ q)
    (hr : c.next.readPrimary limit = .ok (right, c₁))
    (hc : c₁.readChain limit (q + 1) right = .ok (right', c₂)) :
    c.readChain limit p left = c₂.readChain limit p (.binary c.location op left right') := by
  rw [readChain_of_operator hk hp, hr, Outcome.andThen_ok, afterOperand, hc, Outcome.andThen_ok]

/-- What a successful reading of a chain has done: nothing, or one link and the rest. -/
theorem readChain_cases (h : c.readChain limit p left = .ok (e, c')) :
    (c.kind.StopsAt p ∧ left = e ∧ c = c') ∨
    ∃ op q right c₁ right' c₂, c.kind.operator? = some (op, q) ∧ p ≤ q ∧
      c.next.readPrimary limit = .ok (right, c₁) ∧
      c₁.readChain limit (q + 1) right = .ok (right', c₂) ∧
      c₂.readChain limit p (.binary c.location op left right') = .ok (e, c') := by
  by_cases hs : c.kind.StopsAt p
  · rw [readChain_of_stopsAt hs] at h
    exact .inl ⟨hs, by simpa using h⟩
  · obtain ⟨⟨op, q⟩, hk, hp⟩ : ∃ o, c.kind.operator? = some o ∧ p ≤ o.2 := by
      simpa [Token.Kind.StopsAt] using hs
    rw [readChain_of_operator hk hp] at h
    obtain ⟨right, c₁, hr, h⟩ := Outcome.andThen_eq_ok_iff.1 h
    obtain ⟨right', c₂, hc, h⟩ := Outcome.andThen_eq_ok_iff.1 h
    exact .inr ⟨op, q, right, c₁, right', c₂, hk, hp, hr, hc, h⟩

/-- Reading a chain up to a place where nothing tighter goes on is having its tree as the left
operand there. -/
theorem readChain_of_grouped (hg : Grouped left links e) (h : c.Chained limit links c')
    (hp : ∀ l ∈ links, p ≤ l.precedence) (hs : ∀ l ∈ links, c'.kind.StopsAt (l.precedence + 1)) :
    c.readChain limit p left = c'.readChain limit p e := by
  induction hg generalizing c c' p with
  | operand =>
      cases h
      rfl
  | @root left a b before after link hbefore hloose hafter htight ih ih' =>
      obtain ⟨c₁, h₁, h₂⟩ := chained_append.1 h
      cases h₂ with
      | @cons _ c₂ _ op q operand _ hk hr h₂ =>
          have hlink := hs ⟨c₁.location, op, q, operand⟩ (by simp)
          have hstop : ∀ l ∈ before, c₁.kind.StopsAt (l.precedence + 1) := by
            intro l hl o ho
            obtain rfl : o = (op, q) := by simpa [hk] using ho.symm
            exact Nat.lt_succ_of_le (hloose l hl)
          rw [ih h₁ (fun l hl => hp l (by simp [hl])) hstop]
          -- the links behind the root are tighter, so its right operand takes them all
          refine readChain_link hk (hp ⟨c₁.location, op, q, operand⟩ (by simp)) hr ?_
          rw [ih' h₂ htight fun l hl => hs l (by simp [hl])]
          exact readChain_of_stopsAt hlink

theorem grouped_of_readChain (h : c.readChain limit p left = .ok (e, c')) :
    ∃ links, c.Chained limit links c' ∧ (∀ l ∈ links, p ≤ l.precedence) ∧
      Grouped left links e ∧ c'.kind.StopsAt p := by
  induction c using ahead_induction generalizing p left e c' with
  | step c ih =>
      rcases readChain_cases h with
        ⟨hs, rfl, rfl⟩ | ⟨op, q, right, c₁, right', c₂, hk, hp, hr, hc, hrest⟩
      · exact ⟨[], .nil c, by simp, .operand left, hs⟩
      · have hlt := remaining_next_lt (ne_end_of_operator hk)
        have hlt₁ := readPrimary_lt hr
        have hle₂ := readChain_le hc
        -- the links of the right operand, and those behind it
        obtain ⟨mid, hmid, htight, hright, hs₂⟩ := ih c₁ (by omega) hc
        obtain ⟨links, hlinks, hloose, he, hs⟩ := ih c₂ (by omega) hrest
        refine ⟨⟨c.location, op, q, right⟩ :: mid ++ links, ?_, ?_, ?_, hs⟩
        · exact .cons hk hr (chained_append.2 ⟨c₂, hmid, hlinks⟩)
        · intro l hl
          simp only [List.cons_append, List.mem_cons, List.mem_append] at hl
          rcases hl with rfl | hl | hl
          · exact hp
          · exact Nat.le_trans hp (Nat.le_of_lt (htight l hl))
          · exact hloose l hl
        · exact hright.prepend htight he fun l hl => Nat.lt_succ_iff.1 (hlinks.head_lt hs₂ l hl)

/-- Precedence climbing builds the tree of the chain that it reads. -/
theorem readChain_eq_ok_iff : c.readChain limit p left = .ok (e, c') ↔
    ∃ links, c.Chained limit links c' ∧ (∀ l ∈ links, p ≤ l.precedence) ∧
      Grouped left links e ∧ c'.kind.StopsAt p := by
  constructor
  · exact grouped_of_readChain
  · rintro ⟨links, h, hp, hg, hs⟩
    rw [readChain_of_grouped hg h hp, readChain_of_stopsAt hs]
    intro l hl o ho
    exact Nat.lt_succ_of_lt (Nat.lt_of_lt_of_le (hs o ho) (hp l hl))

/-- A chain fails where the operand of one of its operators does. -/
theorem readChain_error {f : Failure} (h : c.readChain limit p left = .error f) :
    ∃ links c₁ op q, c.Chained limit links c₁ ∧ c₁.kind.operator? = some (op, q) ∧
      c₁.next.readPrimary limit = .error f := by
  induction c using ahead_induction generalizing p left with
  | step c ih =>
      by_cases hs : c.kind.StopsAt p
      · rw [readChain_of_stopsAt hs] at h
        contradiction
      · obtain ⟨⟨op, q⟩, hk, hp⟩ : ∃ o, c.kind.operator? = some o ∧ p ≤ o.2 := by
          simpa [Token.Kind.StopsAt] using hs
        have hlt := remaining_next_lt (ne_end_of_operator hk)
        rw [readChain_of_operator hk hp] at h
        cases hr : c.next.readPrimary limit with
        | error f' =>
            rw [hr] at h
            exact ⟨[], c, op, q, .nil c, hk, hr.trans h⟩
        | ok read =>
            obtain ⟨right, c₁⟩ := read
            have hlt₁ := readPrimary_lt hr
            rw [hr, Outcome.andThen_ok, afterOperand] at h
            cases hc : c₁.readChain limit (q + 1) right with
            | error f' =>
                rw [hc] at h
                obtain rfl : f' = f := Except.error.inj h
                obtain ⟨links, c₂, o, q', hlinks, hk', hr'⟩ := ih c₁ (by omega) hc
                exact ⟨_, c₂, o, q', .cons hk hr hlinks, hk', hr'⟩
            | ok read =>
                obtain ⟨right', c₂⟩ := read
                have hle₂ := readChain_le hc
                rw [hc, Outcome.andThen_ok] at h
                obtain ⟨mid, hmid, -⟩ := grouped_of_readChain hc
                obtain ⟨links, c₃, o, q', hlinks, hk', hr'⟩ := ih c₂ (by omega) h
                exact ⟨_, c₃, o, q', .cons hk hr (chained_append.2 ⟨c₂, hmid, hlinks⟩), hk', hr'⟩

end Cursor

end Kaleidoscope
