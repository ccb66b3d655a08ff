import Kaleidoscope.Proofs.Expressions

/-!
How deep a tree can be that was read. Going down into a right operand leads to a tighter rank, of
which there are three above the primaries, and into an argument to an expression one level deeper.
So a derivation bounds how often a path does either (`Derives.countP_isSteep_le`), and the nesting
limit bounds it to 1023, which some expression attains. Going down into left operands leads to the
same rank at the same level, and is not bounded (`readExpression_paths`).
-/

namespace Kaleidoscope

namespace Expr

/-- The ways down from an expression. -/
inductive Edge where
  | left
  | right
  | argument
deriving DecidableEq

/-- Into a right operand or into an argument. -/
def Edge.isSteep : Edge → Bool
  | left => false
  | right => true
  | argument => true

mutual

/-- The paths from the root to the leaves. -/
def paths : Expr → List (List Edge)
  | number _ _ => [[]]
  | reference _ _ => [[]]
  | binary _ _ left right => left.paths.map (.left :: ·) ++ right.paths.map (.right :: ·)
  | call _ _ [] => [[]]
  | call _ _ (first :: more) => (first.paths ++ pathsAll more).map (.argument :: ·)

def pathsAll : List Expr → List (List Edge)
  | [] => []
  | e :: more => e.paths ++ pathsAll more

end

variable {l : Location} {op : Char} {callee : String} {left right : Expr} {es : List Expr}
  {p : List Edge}

theorem mem_paths_binary : p ∈ (binary l op left right).paths ↔
    (∃ q ∈ left.paths, p = .left :: q) ∨ ∃ q ∈ right.paths, p = .right :: q := by
  simp [paths, eq_comm]

theorem mem_pathsAll : p ∈ pathsAll es ↔ ∃ e ∈ es, p ∈ e.paths := by
  induction es with
  | nil => simp [pathsAll]
  | cons e es ih => simp [pathsAll, ih]

theorem mem_paths_call : p ∈ (call l callee es).paths ↔
    (es = [] ∧ p = []) ∨ ∃ e ∈ es, ∃ q ∈ e.paths, p = .argument :: q := by
  cases es with
  | nil => simp [paths]
  | cons e es =>
      have hall {q : List Edge} : q ∈ e.paths ++ pathsAll es ↔ _ := @mem_pathsAll (e :: es) q
      simp only [paths, List.mem_map, hall]
      constructor
      · rintro ⟨q, ⟨a, ha, hq⟩, rfl⟩
        exact .inr ⟨a, ha, q, hq, rfl⟩
      · rintro (⟨h, -⟩ | ⟨a, ha, q, hq, rfl⟩)
        · contradiction
        · exact ⟨q, ⟨a, ha, hq⟩, rfl⟩

/-- The tree of `x + f(y)`. -/
example (l : Location) : (binary l '+' (reference l "x") (call l "f" [reference l "y"])).paths =
    [[.left], [.right, .argument]] := rfl

end Expr

open Kaleidoscope.Expr (Edge)

/-! ### The bound -/

/-- How many right operands can be inside one another, at one level. -/
def Rank.rights : Rank → Nat
  | comparison => 3
  | sum => 2
  | product => 1
  | primary => 0

theorem Rank.rights_tighter {r : Rank} (h : r ≠ .primary) : r.tighter.rights + 1 = r.rights := by
  cases r with
  | primary => contradiction
  | _ => rfl

/-- A level has room for three right operands, and one edge leads to the next level. -/
theorem Derives.countP_isSteep_le {r : Rank} {n : Nat} {ts : List Token} {e : Expr}
    (h : Derives r n ts e) : ∀ p ∈ e.paths, p.countP Edge.isSteep + 4 ≤ r.rights + 4 * n := by
  induction h with
  | lift hr _ ih =>
      intro p hp
      have hle := ih p hp
      have htighter := Rank.rights_tighter hr
      omega
  | @apply r n _ _ _ _ _ _ _ _ hop _ ih ih' =>
      intro p hp
      obtain ⟨q, hq, rfl⟩ | ⟨q, hq, rfl⟩ := Expr.mem_paths_binary.1 hp
      · rw [List.countP_cons_of_neg (by simp [Edge.isSteep])]
        exact ih q hq
      · rw [List.countP_cons_of_pos rfl]
        have hle := ih' q hq
        have htighter := Rank.rights_tighter (Rank.ne_primary_of_mem hop)
        omega
  | number _ =>
      intro p hp
      obtain rfl := List.mem_singleton.1 hp
      exact Nat.le_add_left 4 _
  | reference _ =>
      intro p hp
      obtain rfl := List.mem_singleton.1 hp
      exact Nat.le_add_left 4 _
  | @call n _ _ _ _ _ _ _ _ _ _ _ ih =>
      intro p hp
      obtain ⟨-, rfl⟩ | ⟨e, he, q, hq, rfl⟩ := Expr.mem_paths_call.1 hp
      · exact Nat.le_add_left 4 _
      · obtain ⟨a, ha, rfl⟩ := List.mem_map.1 he
        have hle := ih a ha q hq
        rw [List.countP_cons_of_pos rfl]
        simp only [Rank.rights] at hle ⊢
        omega
  | nested _ _ _ ih =>
      intro p hp
      have hle := ih p hp
      simp only [Rank.rights] at hle ⊢
      omega

/-! ### Trees that attain it, and trees that lean to the left -/

/-- The name `x` is a primary with nothing inside. -/
theorem derives_x (n : Nat) (l : Location) :
    Derives .primary (n + 1) [⟨.identifier "x", l⟩] (.reference l "x") :=
  .reference rfl

/-- In `x < x + x * b` the primary `b` is inside three right operands. -/
theorem Derives.exists_rights {n : Nat} {us : List Token} {b : Expr} {p : List Edge}
    (h : Derives .primary (n + 1) us b) (hp : p ∈ b.paths) : ∃ ts e,
      Derives .comparison (n + 1) ts e ∧ [.right, .right, .right] ++ p ∈ e.paths := by
  let l : Location := ⟨"", 1, 1⟩
  have x := derives_x n l
  have hproduct := (x.loosen (r := .product) (by decide)).apply (t := ⟨.char '*', l⟩) rfl
    (by decide) h
  have hsum := (x.loosen (r := .sum) (by decide)).apply (t := ⟨.char '+', l⟩) rfl
    (by decide) hproduct
  have hcomparison := (x.loosen (r := .comparison) (by decide)).apply (t := ⟨.char '<', l⟩) rfl
    (by decide) hsum
  exact ⟨_, _, hcomparison, by simp [Expr.mem_paths_binary, hp]⟩

/-- With room for one more level, a primary can have a path that is steeper by four edges. -/
theorem exists_steep (k : Nat) : ∃ ts e, Derives .primary (k + 1) ts e ∧
    ∃ p ∈ e.paths, p.countP Edge.isSteep = 4 * k := by
  let l : Location := ⟨"", 1, 1⟩
  induction k with
  | zero => exact ⟨_, _, derives_x 0 l, [], by simp [Expr.paths], rfl⟩
  | succ k ih =>
      obtain ⟨us, b, hb, p, hp, hcount⟩ := ih
      obtain ⟨ts, e, he, hpath⟩ := hb.exists_rights hp
      have hcall : Derives .primary (k + 1 + 1)
          (⟨.identifier "f", l⟩ :: ⟨.char '(', l⟩ :: ts ++ [⟨.char ')', l⟩]) (.call l "f" [e]) :=
        @Derives.call _ _ _ _ _ _ [(ts, e)] rfl rfl (.one ts) (by simpa using he) rfl
      refine ⟨_, _, hcall, _, Expr.mem_paths_call.2 (.inr ⟨e, by simp, _, hpath, rfl⟩), ?_⟩
      have hrights : [Edge.right, .right, .right].countP Edge.isSteep = 3 := rfl
      rw [List.countP_cons_of_pos rfl, List.countP_append, hrights, hcount]
      omega

/-- The sum `x + x + … + x`, in which the first name is inside all left operands. -/
theorem exists_leaning (n : Nat) : ∃ ts e, ts.length = 2 * n + 1 ∧
    (∀ t ∈ ts, t.kind ≠ .char '(' ∧ t.kind ≠ .char ')') ∧ Derives .sum 1 ts e ∧
    List.replicate n .left ∈ e.paths := by
  let l : Location := ⟨"", 1, 1⟩
  have x := derives_x 0 l
  induction n with
  | zero =>
      exact ⟨_, _, rfl, by simp, x.loosen (by decide), by simp [Expr.paths]⟩
  | succ n ih =>
      obtain ⟨ts, e, hlength, hkinds, he, hp⟩ := ih
      have hsum := he.apply (t := ⟨.char '+', l⟩) rfl (by decide)
        (x.loosen (r := .product) (by decide))
      refine ⟨_, _, ?_, ?_, hsum, Expr.mem_paths_binary.2 (.inl ⟨_, hp, rfl⟩)⟩
      · simp only [List.length_append, List.length_cons, List.length_nil, hlength]
        omega
      · exact List.forall_mem_append.2 ⟨hkinds, by simp⟩

namespace Token.Stream

/-- What the nesting limit does to the trees that are read, wherever reading starts. No path enters
right operands and arguments more than 1023 times, which is three times at each of 256 levels and
once from a level to the next, and there is an expression for which some path does. Left operands
are not counted: there are expressions without parentheses that have any number of them inside one
another. -/
theorem paths_readExpression :
    (∀ (s : Stream) (i : Nat) (e : Expr) (c : Cursor),
      (s.cursorAt i).readExpression (some nestingLimit) = .ok (e, c) →
        ∀ p ∈ e.paths, p.countP Edge.isSteep ≤ 1023) ∧
    (∃ (s : Stream) (e : Expr) (c : Cursor),
      (s.cursorAt 0).readExpression (some nestingLimit) = .ok (e, c) ∧
        ∃ p ∈ e.paths, p.countP Edge.isSteep = 1023) ∧
    ∀ n : Nat, ∃ (s : Stream) (e : Expr), s.body.length = 2 * n + 1 ∧
      (∀ t ∈ s.body, t.kind ≠ .char '(' ∧ t.kind ≠ .char ')') ∧
      (s.cursorAt 0).readExpression (some nestingLimit) = .ok (e, s.cursorAt (2 * n + 1)) ∧
      List.replicate n .left ∈ e.paths := by
  refine ⟨fun s i e c h p hp => ?_, ?_, fun n => ?_⟩
  · obtain ⟨used, -, hd, -⟩ :=
      (Cursor.readsExpressions nestingLimit nestingLimit _ c e (Nat.zero_add _)).1 h
    have hle := hd.countP_isSteep_le p hp
    simp only [Rank.rights, nestingLimit] at hle
    omega
  · obtain ⟨us, b, hb, p, hp, hcount⟩ := exists_steep 255
    obtain ⟨ts, e, he, hpath⟩ := hb.exists_rights hp
    refine ⟨_, e, _, he.readExpression_alone (Nat.le_refl _) ⟨"", 1, 1⟩, _, hpath, ?_⟩
    rw [List.countP_append, hcount]
    rfl
  · obtain ⟨ts, e, hlength, hkinds, he, hp⟩ := exists_leaning n
    have hread := (he.loosen (r := .comparison) (by decide)).readExpression_alone
      (m := nestingLimit) (by decide) ⟨"", 1, 1⟩
    rw [hlength] at hread
    exact ⟨_, e, hlength, hkinds, hread, hp⟩

/-- The tokens of `f(x)`. -/
def callOnName : Stream :=
  ofKinds [.identifier "f", .char '(', .identifier "x", .char ')']

theorem paths_readExpression_callOnName :
    (callOnName.cursorAt 0).readExpression (some nestingLimit) =
      .ok (.call ⟨"", 1, 1⟩ "f" [.reference ⟨"", 1, 3⟩ "x"], callOnName.cursorAt 4) ∧
    ∀ p ∈ (Expr.call ⟨"", 1, 1⟩ "f" [.reference ⟨"", 1, 3⟩ "x"]).paths,
      p.countP Edge.isSteep ≤ 1023 := by
  have hx := (derives_x 0 ⟨"", 1, 3⟩).loosen (r := .comparison) (by decide)
  have hcall : Derives .primary 2 callOnName.body
      (.call ⟨"", 1, 1⟩ "f" [.reference ⟨"", 1, 3⟩ "x"]) :=
    @Derives.call _ ⟨_, _⟩ ⟨_, _⟩ ⟨_, _⟩ _ _ [(_, _)] rfl rfl (.one _) (by simpa using hx) rfl
  have hread := (hcall.loosen (r := .comparison) (by decide)).readExpression_alone
    (m := nestingLimit) (by decide) callOnName.finish
  exact ⟨hread, paths_readExpression.1 callOnName 0 _ _ hread⟩

end Token.Stream

end Kaleidoscope
