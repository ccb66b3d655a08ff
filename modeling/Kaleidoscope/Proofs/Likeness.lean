import Kaleidoscope.Proofs.Continuations
import Mathlib.Data.List.Forall2

/-!
Two cursors side by side. Their tokens are alike up to the end of a window, which means that they
have the same shape and related locations, names and numbers; what stands behind the window is any
two lists of tokens. `Cursor.Tracks` says that both cursors are at the same place of the window, and
`Outcome.Tracks` that a reading which ends in the window has a counterpart that ends at the same
place, with a related result or the same cause of failure.
-/

namespace Kaleidoscope

/-- How the data in two streams may differ. The empty name is no data of a stream: it is the name
of the function of a bare expression. -/
structure Likeness where
  location : Location → Location → Prop
  name : String → String → Prop
  value : Binary64 → Binary64 → Prop
  anonymous : name "" ""

/-- What stands behind the stretches that are compared. -/
structure Window extends Likeness where
  behind : List Token
  behind' : List Token

inductive Token.Kind.Like (R : Likeness) : Kind → Kind → Prop
  | endOfInput : Like R .endOfInput .endOfInput
  | defWord : Like R .defWord .defWord
  | externWord : Like R .externWord .externWord
  | identifier {x y : String} : R.name x y → Like R (.identifier x) (.identifier y)
  | number {v w : Binary64} : R.value v w → Like R (.number v) (.number w)
  | char (c : Char) : Like R (.char c) (.char c)

structure Token.Like (R : Likeness) (t u : Token) : Prop where
  kind : t.kind.Like R u.kind
  location : R.location t.location u.location

inductive Expr.Like (R : Likeness) : Expr → Expr → Prop
  | number {l l' : Location} {v w : Binary64} :
      R.location l l' → R.value v w → Like R (.number l v) (.number l' w)
  | reference {l l' : Location} {x y : String} :
      R.location l l' → R.name x y → Like R (.reference l x) (.reference l' y)
  | binary {l l' : Location} {op : Char} {a b a' b' : Expr} :
      R.location l l' → Like R a a' → Like R b b' → Like R (.binary l op a b) (.binary l' op a' b')
  | call {l l' : Location} {x y : String} {arguments : List (Expr × Expr)} :
      R.location l l' → R.name x y → (∀ a ∈ arguments, Like R a.1 a.2) →
      Like R (.call l x (arguments.map (·.1))) (.call l' y (arguments.map (·.2)))

structure Prototype.Like (R : Likeness) (p q : Prototype) : Prop where
  location : R.location p.location q.location
  name : R.name p.name q.name
  parameters : List.Forall₂ R.name p.parameters q.parameters

structure Function.Like (R : Likeness) (f g : Function) : Prop where
  prototype : f.prototype.Like R g.prototype
  body : f.body.Like R g.body

inductive Statement.Like (R : Likeness) : Statement → Statement → Prop
  | definition {f g : Function} : f.Like R g → Like R (.definition f) (.definition g)
  | external {p q : Prototype} : p.Like R q → Like R (.external p) (.external q)
  | expression {f g : Function} : f.Like R g → Like R (.expression f) (.expression g)

inductive Item.Like (R : Likeness) : Item → Item → Prop
  | statement {s s' : Statement} : s.Like R s' → Like R (.statement s) (.statement s')
  | separator : Like R .separator .separator
  | finish : Like R .finish .finish

theorem Token.Kind.Like.operator_eq {R : Likeness} {k k' : Kind} (h : k.Like R k') :
    k'.operator? = k.operator? := by
  cases h <;> rfl

theorem Token.Kind.Like.char_iff {R : Likeness} {k k' : Kind} {c : Char} (h : k.Like R k') :
    k' = .char c ↔ k = .char c := by
  cases h <;> simp

theorem Token.Kind.Like.end_iff {R : Likeness} {k k' : Kind} (h : k.Like R k') :
    k' = .endOfInput ↔ k = .endOfInput := by
  cases h <;> simp

theorem Expr.Like.call_of_forall₂ {R : Likeness} {l l' : Location} {x y : String}
    {es es' : List Expr} (hl : R.location l l') (hx : R.name x y)
    (h : List.Forall₂ (Expr.Like R) es es') : Expr.Like R (.call l x es) (.call l' y es') := by
  obtain ⟨arguments, rfl, rfl, ha⟩ : ∃ arguments : List (Expr × Expr),
      arguments.map (·.1) = es ∧ arguments.map (·.2) = es' ∧ ∀ a ∈ arguments, a.1.Like R a.2 := by
    induction h with
    | nil => exact ⟨[], rfl, rfl, by simp⟩
    | @cons e e' _ _ he _ ih =>
        obtain ⟨arguments, rfl, rfl, ha⟩ := ih
        exact ⟨(e, e') :: arguments, rfl, rfl, List.forall_mem_cons.2 ⟨he, ha⟩⟩
  exact .call hl hx ha

/-! ### Cursors -/

namespace Cursor

/-- Both cursors are at the same place of the window. -/
structure Tracks (w : Window) (c d : Cursor) : Prop where
  depth : c.depth = d.depth
  window : ∃ x y xs ys, x.Like w.toLikeness y ∧ List.Forall₂ (Token.Like w.toLikeness) xs ys ∧
    c.tokens = x :: xs ++ w.behind ∧ d.tokens = y :: ys ++ w.behind'

variable {w : Window} {c d : Cursor}

theorem length_tokens (c : Cursor) : c.tokens.length = c.remaining + 1 := by
  simp [tokens, remaining]

theorem current_of_tokens {t : Token} {ts : List Token} (h : c.tokens = t :: ts) :
    c.current = t := by
  rcases c with ⟨_ | ⟨u, rest⟩, finish, index, depth⟩ <;> exact (List.cons.inj h).1

theorem tokens_of_ne_end (h : c.kind ≠ .endOfInput) : c.tokens = c.current :: c.next.tokens := by
  obtain ⟨ha, hn⟩ := next_of_ne_end h
  rw [hn, tokens, ha]
  rfl

namespace Tracks

theorem current (h : c.Tracks w d) : c.current.Like w.toLikeness d.current := by
  obtain ⟨x, y, xs, ys, hxy, -, hc, hd⟩ := h.window
  rwa [current_of_tokens hc, current_of_tokens hd]

theorem kind (h : c.Tracks w d) : c.kind.Like w.toLikeness d.kind :=
  h.current.kind

theorem location (h : c.Tracks w d) : w.location c.location d.location :=
  h.current.location

theorem ne_char {x : Char} (h : c.Tracks w d) (hk : c.kind ≠ .char x) : d.kind ≠ .char x :=
  fun hd => hk (h.kind.char_iff.1 hd)

theorem ne_end (h : c.Tracks w d) (hk : c.kind ≠ .endOfInput) : d.kind ≠ .endOfInput :=
  fun hd => hk (h.kind.end_iff.1 hd)

/-- Both cursors move on together as long as the first one stays in the window. -/
theorem next (h : c.Tracks w d) (hin : w.behind.length ≤ c.next.remaining) :
    c.next.Tracks w d.next := by
  by_cases hk : c.kind = .endOfInput
  · rwa [next_of_end hk, next_of_end (h.kind.end_iff.2 hk)]
  · have hk' := h.ne_end hk
    obtain ⟨x, y, xs, ys, -, hlike, hc, hd⟩ := h.window
    rw [tokens_of_ne_end hk] at hc
    rw [tokens_of_ne_end hk'] at hd
    have hc : c.next.tokens = xs ++ w.behind := (List.cons.inj hc).2
    have hd : d.next.tokens = ys ++ w.behind' := (List.cons.inj hd).2
    refine ⟨by rw [depth_next, depth_next, h.depth], ?_⟩
    cases hlike with
    | nil =>
        have hlen := congrArg List.length hc
        rw [length_tokens, List.nil_append] at hlen
        omega
    | cons hxy hlike => exact ⟨_, _, _, _, hxy, hlike, hc, hd⟩

/-- At the same place of a window, what is ahead differs by what is behind the window. -/
theorem remaining_add (h : c.Tracks w d) :
    c.remaining + w.behind'.length = d.remaining + w.behind.length := by
  obtain ⟨x, y, xs, ys, -, hlike, hc, hd⟩ := h.window
  have hlen := hlike.length_eq
  have hc := congrArg List.length hc
  have hd := congrArg List.length hd
  rw [length_tokens, List.length_append, List.length_cons] at hc hd
  omega

theorem descend (h : c.Tracks w d) : c.descend.Tracks w d.descend :=
  ⟨congrArg (· + 1) h.depth, h.window⟩

theorem ascend (h : c.Tracks w d) : c.ascend.Tracks w d.ascend :=
  ⟨congrArg (· - 1) h.depth, h.window⟩

end Tracks

end Cursor

/-! ### Outcomes -/

namespace Outcome

variable {α β : Type} {V : α → α → Prop} {U : β → β → Prop} {w : Window} {o o' : Outcome α}

/-- The cursor that a reading leaves, whether it succeeds or fails. -/
def final : Outcome α → Cursor
  | .error f => f.cursor
  | .ok (_, c) => c

inductive Alike (w : Window) (V : α → α → Prop) : Outcome α → Outcome α → Prop
  | error {f f' : Failure} :
      f.cause = f'.cause → f.cursor.Tracks w f'.cursor → Alike w V (.error f) (.error f')
  | ok {a a' : α} {c d : Cursor} : V a a' → c.Tracks w d → Alike w V (.ok (a, c)) (.ok (a', d))

/-- A reading that ends in the window has a counterpart that ends at the same place. Nothing is
said about one that has looked at what is behind the window. -/
def Tracks (w : Window) (V : α → α → Prop) (o o' : Outcome α) : Prop :=
  w.behind.length ≤ o.final.remaining → Alike w V o o'

theorem Moves.final {c : Cursor} (h : o.Moves c) : c.Reaches o.final := by
  cases o <;> exact h

theorem Alike.final (h : Alike w V o o') : o.final.Tracks w o'.final := by
  cases h with
  | error _ ht => exact ht
  | ok _ ht => exact ht

theorem Stays.final_le {c : Cursor} (h : o.Stays c) : o.final.remaining ≤ c.remaining := by
  cases o with
  | error f => exact (Cursor.ReachesWithin.reaches h).remaining_le
  | ok a => exact (Cursor.ReachesWithin.reaches h).remaining_le

namespace Tracks

theorem map {f f' : α → β} (h : o.Tracks w V o') (hf : ∀ a a', V a a' → U (f a) (f' a')) :
    (o.map f).Tracks w U (o'.map f') := by
  cases o with
  | error e =>
      intro hin
      cases h hin with
      | error hcause ht => exact .error hcause ht
  | ok a =>
      intro hin
      cases h hin with
      | ok hv ht => exact .ok (hf _ _ hv) ht

theorem andThen {k k' : α → Cursor → Outcome β} (h : o.Tracks w V o')
    (hs : ∀ a c, (k a c).Stays c)
    (hk : ∀ a a' c d, o = .ok (a, c) → V a a' → c.Tracks w d → (k a c).Tracks w U (k' a' d)) :
    (o.andThen k).Tracks w U (o'.andThen k') := by
  cases o with
  | error e =>
      intro hin
      cases h hin with
      | error hcause ht => exact .error hcause ht
  | ok a =>
      intro hin
      cases h (Nat.le_trans hin (hs a.1 a.2).final_le) with
      | ok hv ht => exact hk _ _ _ _ rfl hv ht hin

theorem ascend (h : o.Tracks w V o') : o.ascend.Tracks w V o'.ascend := by
  cases o with
  | error e =>
      intro hin
      cases h hin with
      | error hcause ht => exact .error hcause ht.ascend
  | ok a =>
      intro hin
      cases h hin with
      | ok hv ht => exact .ok hv ht.ascend

end Tracks

end Outcome

/-- A reading that goes on behind a token has to be followed only where the window does. -/
theorem Cursor.Tracks.andNext {α : Type} {V : α → α → Prop} {w : Window} {c d : Cursor}
    {o o' : Outcome α} (h : c.Tracks w d) (hs : o.Stays c.next)
    (ho : c.next.Tracks w d.next → o.Tracks w V o') : o.Tracks w V o' :=
  fun hin => ho (h.next (Nat.le_trans hin hs.final_le)) hin

end Kaleidoscope
