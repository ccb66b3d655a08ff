import Kaleidoscope.Proofs.Chain
import Kaleidoscope.Proofs.Cutoff
import Kaleidoscope.Proofs.Places

/-!
Precedence climbing at a place of a stream. `Chain` says which tree is built from which links; here
the links are stretches of the stream, each an operator with the tokens that `readPrimary` passes
behind it (`Linked`), and they are the tokens between the place where the reading starts and the one
where it stops. The left operand is never looked into: whatever it is, the same links are applied to
it, one around the other (`readChain_any_left`).
-/

namespace Kaleidoscope

/-- The expression as the innermost left operand of these operators, the first of them applied
first. -/
def Expr.applyAll (e : Expr) (spine : List Link) : Expr :=
  spine.foldl (fun a link => .binary link.location link.op a link.operand) e

/-- The operators around the left operand of a chain do not depend on it. -/
theorem Grouped.exists_spine {left e : Expr} {links : List Link} (h : Grouped left links e) :
    ∃ spine, e = left.applyAll spine ∧ ∀ other : Expr, Grouped other links (other.applyAll spine) := by
  induction h with
  | operand e => exact ⟨[], rfl, .operand⟩
  | @root left a b before after link _ hloose hafter htight ih _ =>
      obtain ⟨spine, rfl, hspine⟩ := ih
      refine ⟨spine ++ [{ link with operand := b }], ?_, fun other => ?_⟩
      · simp [Expr.applyAll]
      · rw [Expr.applyAll, List.foldl_append]
        exact (hspine other).root hloose hafter htight

/-- A link and the tokens that it takes. -/
structure Stretch where
  tokens : List Token
  link : Link

namespace Cursor

variable {limit : Option Nat} {c c' : Cursor} {p : Nat} {left e : Expr} {links : List Link}
  {stretches : List Stretch} {used : List Token}

/-- Links between two cursors, one behind the other. Each takes its operator and what `readPrimary`
passes behind it. -/
inductive Linked (limit : Option Nat) : Cursor → List Stretch → Cursor → Prop
  | nil (c : Cursor) : Linked limit c [] c
  | cons {c c₁ c' : Cursor} {op : Char} {q : Nat} {operand : Expr} {ts : List Token}
      {stretches : List Stretch} :
      c.kind.operator? = some (op, q) → c.next.readPrimary limit = .ok (operand, c₁) →
      c.next.Passes ts c₁ → Linked limit c₁ stretches c' →
      Linked limit c (⟨c.current :: ts, ⟨c.location, op, q, operand⟩⟩ :: stretches) c'

theorem Linked.passes (h : c.Linked limit stretches c') :
    c.Passes (stretches.flatMap (·.tokens)) c' := by
  induction h with
  | nil c => exact passes_nil.2 rfl
  | cons hk _ hp _ ih => exact (passes_cons.2 ⟨rfl, ne_end_of_operator hk, hp⟩).trans ih

/-- Links are what is read between two cursors, together with the tokens that were passed. -/
theorem chained_iff_linked : c.Chained limit links c' ↔
    ∃ stretches, c.Linked limit stretches c' ∧ stretches.map (·.link) = links := by
  constructor
  · intro h
    induction h with
    | nil c => exact ⟨[], .nil c, rfl⟩
    | @cons c c₁ c' op q operand links hk hr _ ih =>
        obtain ⟨stretches, hlinked, rfl⟩ := ih
        have hstays := stays_readPrimary limit c.next
        rw [hr] at hstays
        obtain ⟨ts, hp, -⟩ := hstays
        exact ⟨_, .cons hk hr hp hlinked, rfl⟩
  · rintro ⟨stretches, h, rfl⟩
    induction h with
    | nil c => exact .nil c
    | cons hk hr _ _ ih => exact .cons hk hr ih

/-- Precedence climbing builds the tree of the stretches that it passes. -/
theorem readChain_eq_ok_iff_linked : c.readChain limit p left = .ok (e, c') ↔
    ∃ stretches, c.Linked limit stretches c' ∧ (∀ a ∈ stretches, p ≤ a.link.precedence) ∧
      c'.kind.StopsAt p ∧ Grouped left (stretches.map (·.link)) e := by
  rw [readChain_eq_ok_iff]
  constructor
  · rintro ⟨links, hlinks, hp, hg, hs⟩
    obtain ⟨stretches, hlinked, rfl⟩ := chained_iff_linked.1 hlinks
    exact ⟨stretches, hlinked, fun a ha => hp a.link (List.mem_map_of_mem ha), hs, hg⟩
  · rintro ⟨stretches, hlinked, hp, hs, hg⟩
    exact ⟨_, chained_iff_linked.2 ⟨stretches, hlinked, rfl⟩, List.forall_mem_map.2 hp, hg, hs⟩

/-- What is read around a left operand is read around any other one. -/
theorem readChain_any_left (h : c.readChain limit p left = .ok (e, c')) :
    ∃ spine, e = left.applyAll spine ∧
      ∀ other : Expr, c.readChain limit p other = .ok (other.applyAll spine, c') := by
  obtain ⟨links, hlinks, hp, hg, hs⟩ := readChain_eq_ok_iff.1 h
  obtain ⟨spine, he, hspine⟩ := hg.exists_spine
  exact ⟨spine, he, fun other => readChain_eq_ok_iff.2 ⟨links, hlinks, hp, hspine other, hs⟩⟩

theorem Passes.atDepth (h : c.Passes used c') (depth : Nat) :
    (c.atDepth depth).Passes used (c'.atDepth depth) := by
  obtain ⟨ha, hk, he⟩ := h
  refine ⟨ha, hk, ?_⟩
  rw [he]
  rfl

end Cursor

namespace Token.Stream

variable {s : Stream} {i j depth : Nat} {limit : Option Nat} {used : List Token} {c : Cursor}
  {stretches : List Stretch}

/-- Inside of expressions, too, a cursor only passes from one place of the stream to another. -/
theorem eq_of_passes_atDepth (hi : i ≤ s.body.length)
    (h : ((s.cursorAt i).atDepth depth).Passes used c) :
    i + used.length ≤ s.body.length ∧ used = s.toList.extract i (i + used.length) ∧
      c = (s.cursorAt (i + used.length)).atDepth depth := by
  have hout := h.atDepth 0
  rw [Cursor.atDepth_atDepth, atDepth_cursorAt] at hout
  obtain ⟨hlen, hused, hc⟩ := eq_of_passes hi hout
  refine ⟨hlen, hused, ?_⟩
  have hdepth : c.depth = depth := h.depth_eq
  calc
    c = (c.atDepth 0).atDepth c.depth := rfl
    _ = (s.cursorAt (i + used.length)).atDepth depth := by rw [hc, hdepth]

/-- The stretches between two places are the tokens there. -/
theorem tokens_of_linked (hi : i ≤ s.body.length)
    (h : ((s.cursorAt i).atDepth depth).Linked limit stretches ((s.cursorAt j).atDepth depth)) :
    s.toList.extract i j = stretches.flatMap (·.tokens) ∧
      s.toList[j]? = some ((s.cursorAt j).atDepth depth).current := by
  obtain ⟨hlen, hused, hc⟩ := eq_of_passes_atDepth hi h.passes
  obtain rfl : j = _ := congrArg Cursor.index hc
  exact ⟨hused.symm, current_cursorAt hlen⟩

/-- What precedence climbing does at a place of a stream, with any left operand and any threshold.
It passes operators that bind at least as tightly as the threshold, each with the stretch of its
operand, stops where no such operator stands, and builds the tree of the chain, whose root is the
last of its loosest operators. Any such chain is read. The left operand is inside of all operators
around it, and they would be the same around any other one. -/
theorem readChain_cursorAt (limit : Option Nat) (s : Stream) (i depth p : Nat) (left : Expr)
    (hi : i < s.toList.length) :
    (∀ e j, ((s.cursorAt i).atDepth depth).readChain limit p left =
        .ok (e, (s.cursorAt j).atDepth depth) ↔
      ∃ stretches : List Stretch,
        ((s.cursorAt i).atDepth depth).Linked limit stretches ((s.cursorAt j).atDepth depth) ∧
        s.toList.extract i j = stretches.flatMap (·.tokens) ∧
        (∀ a ∈ stretches, p ≤ a.link.precedence) ∧
        (∃ t ∈ s.toList[j]?, t.kind.StopsAt p) ∧ Grouped left (stretches.map (·.link)) e) ∧
    (∀ (stretches : List Stretch) (j : Nat),
      ((s.cursorAt i).atDepth depth).Linked limit stretches ((s.cursorAt j).atDepth depth) →
      (∀ a ∈ stretches, p ≤ a.link.precedence) → (∃ t ∈ s.toList[j]?, t.kind.StopsAt p) →
      ∃ e, Grouped left (stretches.map (·.link)) e ∧
        ((s.cursorAt i).atDepth depth).readChain limit p left =
          .ok (e, (s.cursorAt j).atDepth depth)) ∧
    ∀ e c, ((s.cursorAt i).atDepth depth).readChain limit p left = .ok (e, c) →
      (∃ j, i ≤ j ∧ j < s.toList.length ∧ c = (s.cursorAt j).atDepth depth) ∧
      ∃ spine, e = left.applyAll spine ∧ ∀ other : Expr,
        ((s.cursorAt i).atDepth depth).readChain limit p other = .ok (other.applyAll spine, c) := by
  rw [s.length_toList] at hi ⊢
  have hi : i ≤ s.body.length := Nat.le_of_lt_succ hi
  have reads {e : Expr} {stretches : List Stretch} {j : Nat}
      (hlinked : ((s.cursorAt i).atDepth depth).Linked limit stretches
        ((s.cursorAt j).atDepth depth)) (hp : ∀ a ∈ stretches, p ≤ a.link.precedence)
      (hs : ∃ t ∈ s.toList[j]?, t.kind.StopsAt p) (hg : Grouped left (stretches.map (·.link)) e) :
      ((s.cursorAt i).atDepth depth).readChain limit p left =
        .ok (e, (s.cursorAt j).atDepth depth) := by
    obtain ⟨-, hcurrent⟩ := tokens_of_linked hi hlinked
    obtain ⟨t, ht, hs⟩ := hs
    obtain rfl := Option.some.inj (hcurrent.symm.trans ht)
    exact Cursor.readChain_eq_ok_iff_linked.2 ⟨stretches, hlinked, hp, hs, hg⟩
  refine ⟨fun e j => ⟨fun h => ?_, ?_⟩, fun stretches j hlinked hp hs => ?_,
    fun e c h => ⟨?_, Cursor.readChain_any_left h⟩⟩
  · obtain ⟨stretches, hlinked, hp, hs, hg⟩ := Cursor.readChain_eq_ok_iff_linked.1 h
    obtain ⟨htokens, hcurrent⟩ := tokens_of_linked hi hlinked
    exact ⟨stretches, hlinked, htokens, hp, ⟨_, hcurrent, hs⟩, hg⟩
  · rintro ⟨stretches, hlinked, -, hp, hs, hg⟩
    exact reads hlinked hp hs hg
  · obtain ⟨e, hg⟩ := Grouped.total left (stretches.map (·.link))
    exact ⟨e, hg, reads hlinked hp hs hg⟩
  · obtain ⟨stretches, hlinked, -⟩ := Cursor.readChain_eq_ok_iff_linked.1 h
    obtain ⟨hlen, -, hc⟩ := eq_of_passes_atDepth hi hlinked.passes
    exact ⟨_, Nat.le_add_right i _, Nat.lt_succ_of_le hlen, hc⟩

/-- The tokens of `; - y * z + w < v`. -/
def operatorsInARow : Stream :=
  ofKinds [.char ';', .char '-', .identifier "y", .char '*', .identifier "z", .char '+',
    .identifier "w", .char '<', .identifier "v"]

/-- With a threshold that no operator has, inside of 255 expressions, and with a call as the left
operand. -/
theorem readChain_operatorsInARow : 1 < operatorsInARow.toList.length ∧
    ∃ stretches : List Stretch,
      ((operatorsInARow.cursorAt 1).atDepth 255).Linked (some nestingLimit) stretches
        ((operatorsInARow.cursorAt 7).atDepth 255) ∧
      (∀ a ∈ stretches, 15 ≤ a.link.precedence) ∧
      (∃ t ∈ operatorsInARow.toList[7]?, t.kind.StopsAt 15) ∧
      ((operatorsInARow.cursorAt 1).atDepth 255).readChain (some nestingLimit) 15
          (.call ⟨"", 1, 1⟩ "f" []) =
        .ok (.binary ⟨"", 1, 6⟩ '+'
            (.binary ⟨"", 1, 2⟩ '-' (.call ⟨"", 1, 1⟩ "f" [])
              (.binary ⟨"", 1, 4⟩ '*' (.reference ⟨"", 1, 3⟩ "y") (.reference ⟨"", 1, 5⟩ "z")))
            (.reference ⟨"", 1, 7⟩ "w"),
          (operatorsInARow.cursorAt 7).atDepth 255) := by
  let y : Link := ⟨⟨"", 1, 2⟩, '-', 20, .reference ⟨"", 1, 3⟩ "y"⟩
  let z : Link := ⟨⟨"", 1, 4⟩, '*', 40, .reference ⟨"", 1, 5⟩ "z"⟩
  let w : Link := ⟨⟨"", 1, 6⟩, '+', 20, .reference ⟨"", 1, 7⟩ "w"⟩
  have hi : 1 < operatorsInARow.toList.length := by decide
  have name {c : Cursor} {x : String} {o : Char × Nat} (h : c.kind = .identifier x)
      (ho : c.next.kind.operator? = some o) :
      c.readPrimary (some nestingLimit) = .ok (.reference c.location x, c.next) ∧
        c.Passes [c.current] c.next := by
    refine ⟨(Cursor.readPrimary_name h).trans (Cursor.afterName_reference fun hk => ?_),
      Cursor.passes_next (by simp [h])⟩
    simp [hk, Kind.operator?, precedence?] at ho
  have hlinked : ((operatorsInARow.cursorAt 1).atDepth 255).Linked (some nestingLimit)
      [⟨[⟨.char '-', "", 1, 2⟩, ⟨.identifier "y", "", 1, 3⟩], y⟩,
        ⟨[⟨.char '*', "", 1, 4⟩, ⟨.identifier "z", "", 1, 5⟩], z⟩,
        ⟨[⟨.char '+', "", 1, 6⟩, ⟨.identifier "w", "", 1, 7⟩], w⟩]
      ((operatorsInARow.cursorAt 7).atDepth 255) :=
    .cons rfl (name rfl rfl).1 (name rfl rfl).2 <|
      .cons rfl (name rfl rfl).1 (name rfl rfl).2 <|
        .cons rfl (name rfl rfl).1 (name rfl rfl).2 (.nil _)
  have hs : ∃ t ∈ operatorsInARow.toList[7]?, t.kind.StopsAt 15 :=
    ⟨⟨.char '<', "", 1, 8⟩, rfl, by simp [Kind.StopsAt, Kind.operator?, precedence?]⟩
  have hproduct : Grouped (.reference ⟨"", 1, 3⟩ "y") [z] _ :=
    @Grouped.root _ _ _ [] [] z (.operand _) (by simp) (.operand _) (by simp)
  have hdifference : Grouped (.call ⟨"", 1, 1⟩ "f" []) [y, z] _ :=
    @Grouped.root _ _ _ [] [z] y (.operand _) (by simp) hproduct (by decide)
  have hg : Grouped (.call ⟨"", 1, 1⟩ "f" []) [y, z, w] _ :=
    @Grouped.root _ _ _ [y, z] [] w hdifference (by decide) (.operand _) (by simp)
  obtain ⟨hread, -, -⟩ :=
    readChain_cursorAt (some nestingLimit) operatorsInARow 1 255 15 (.call ⟨"", 1, 1⟩ "f" []) hi
  exact ⟨hi, _, hlinked, by decide, hs, (hread _ 7).2 ⟨_, hlinked, rfl, by decide, hs, hg⟩⟩

end Token.Stream

end Kaleidoscope
