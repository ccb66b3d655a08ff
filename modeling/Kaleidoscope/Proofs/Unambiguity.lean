import Kaleidoscope.Proofs.RoundTrip

/-!
The text of a tree determines the tree. Trees with the same text have the same kinds of token, and
any tokens of these kinds derive each of the trees up to locations. Tokens derive no more than one
tree (`DerivesStatement.unique`), so the trees differ in nothing but locations (`display_eq_iff`).
No limit on the nesting comes in, since a derivation has as much room as it needs.
-/

namespace Kaleidoscope

/-! ### Trees up to locations -/

theorem Expr.Like.eq_call {R : Likeness} {e : Expr} {l' : Location} {y : String} {es' : List Expr}
    (h : e.Like R (.call l' y es')) : ∃ l x es, e = .call l x es ∧ R.location l l' ∧ R.name x y ∧
      List.Forall₂ (Expr.Like R) es es' := by
  cases h with
  | @call l _ x _ arguments hl hx h =>
      refine ⟨l, x, _, rfl, hl, hx, ?_⟩
      rw [List.forall₂_map_left_iff, List.forall₂_map_right_iff]
      exact List.forall₂_same.2 h

/-- Two trees that are a third one up to locations. -/
theorem Expr.Like.of_common {e e' f : Expr} (h : e.Like .places f) (h' : e'.Like .places f) :
    e.Like .places e' := by
  induction h generalizing e' with
  | number _ hv =>
      cases h' with
      | number _ hv' => exact .number trivial (hv.trans hv'.symm)
  | reference _ hx =>
      cases h' with
      | reference _ hx' => exact .reference trivial (hx.trans hx'.symm)
  | binary _ _ _ ih ih' =>
      cases h' with
      | binary _ hl hr => exact .binary trivial (ih hl) (ih' hr)
  | @call _ _ _ _ arguments _ hx _ ih =>
      obtain ⟨l, x, es, rfl, -, hx', hes⟩ := h'.eq_call
      have hes : List.Forall₂ (fun a e => e.Like .places a.2) arguments es :=
        List.forall₂_map_left_iff.1 hes.flip
      have hboth := (List.forall₂_and_left arguments es).2 ⟨fun a ha e => @ih a ha e, hes⟩
      refine .call_of_forall₂ trivial (hx.trans hx'.symm) (List.forall₂_map_left_iff.2 ?_)
      exact hboth.imp fun a e h => h.1 e h.2

theorem Prototype.Like.of_common {p q r : Prototype} (h : p.Like .places r)
    (h' : q.Like .places r) : p.Like .places q where
  location := trivial
  name := h.name.trans h'.name.symm
  parameters := by
    have hp : p.parameters = r.parameters := List.forall₂_eq_eq_eq ▸ h.parameters
    have hq : q.parameters = r.parameters := List.forall₂_eq_eq_eq ▸ h'.parameters
    exact List.forall₂_eq_eq_eq ▸ hp.trans hq.symm

theorem Function.Like.of_common {f g k : Function} (h : f.Like .places k)
    (h' : g.Like .places k) : f.Like .places g :=
  ⟨h.prototype.of_common h'.prototype, h.body.of_common h'.body⟩

theorem Node.Like.of_common {n n' m : Node} (h : n.Like .places m) (h' : n'.Like .places m) :
    n.Like .places n' := by
  cases h with
  | external hp =>
      cases h' with
      | external hq => exact .external (hp.of_common hq)
  | function hf =>
      cases h' with
      | function hg => exact .function (hf.of_common hg)

/-! ### Trees with the same text -/

theorem Expr.Like.chars_eq {e e' : Expr} (h : e.Like .places e') : e.chars = e'.chars := by
  induction h with
  | number _ hv =>
      obtain rfl : _ = _ := hv
      rw [chars_number, chars_number]
  | reference _ hx =>
      obtain rfl : _ = _ := hx
      rw [chars_reference, chars_reference]
  | binary _ _ _ ih ih' => rw [chars_binary, chars_binary, ih, ih']
  | call _ hx _ ih =>
      obtain rfl : _ = _ := hx
      have harguments := List.map_congr_left ih
      rw [chars_call, chars_call, List.map_map, List.map_map]
      exact congrArg (fun texts => _ ++ '(' :: ([',', ' '].intercalate texts ++ [')'])) harguments

theorem Prototype.Like.chars_eq {p q : Prototype} (h : p.Like .places q) : p.chars = q.chars := by
  have hname : p.name = q.name := h.name
  have hparameters : p.parameters = q.parameters := List.forall₂_eq_eq_eq ▸ h.parameters
  rw [chars, chars, hname, hparameters]

namespace Node

variable {n n' : Node}

theorem Like.chars_eq (h : n.Like .places n') : n.chars = n'.chars := by
  cases h with
  | external hp => rw [chars_external, chars_external, hp.chars_eq]
  | @function f g hf =>
      have hname : f.prototype.name = g.prototype.name := hf.prototype.name
      have hanonymous : f.prototype.isAnonymous = g.prototype.isAnonymous := by
        rw [Prototype.isAnonymous, Prototype.isAnonymous, hname]
      cases hg : g.prototype.isAnonymous with
      | true =>
          rw [chars_anonymous (hanonymous.trans hg), chars_anonymous hg]
          exact hf.body.chars_eq
      | false =>
          rw [chars_named (hanonymous.trans hg), chars_named hg, hf.prototype.chars_eq,
            hf.body.chars_eq]

/-- The tokens of the common text derive both nodes. -/
theorem Writable.like_of_chars_eq (h : n.Writable) (h' : n'.Writable) (heq : n.chars = n'.chars) :
    n.Like .places n' := by
  have hread := h'.reads breaks_nil
  rw [← heq] at hread
  obtain ⟨st, hst, hts⟩ := (h.reads breaks_nil).ofText_eq n.kinds_ne_nil ""
  obtain ⟨st', hst', hts'⟩ := hread.ofText_eq n'.kinds_ne_nil ""
  obtain rfl := Except.ok.inj (hst.symm.trans hst')
  obtain ⟨s, hd, hlike⟩ := h.derives hts
  obtain ⟨s', hd', hlike'⟩ := h'.derives hts'
  obtain rfl := hd.unique hd'
  exact hlike.of_common hlike'

end Node

/-- An expression has the text of the node that it is the body of. -/
theorem Expr.Writable.like_of_chars_eq {e e' : Expr} (h : e.Writable) (h' : e'.Writable)
    (heq : e.chars = e'.chars) : e.Like .places e' := by
  let bare (e : Expr) : Node := .function ⟨.anonymous ⟨"", 1, 1⟩, e⟩
  have hwritable {e : Expr} (h : e.Writable) : (bare e).Writable := .expression rfl rfl h
  have hchars (e : Expr) : (bare e).chars = e.chars := Node.chars_anonymous rfl
  have hlike : (bare e).Like .places (bare e') :=
    (hwritable h).like_of_chars_eq (hwritable h') (by rw [hchars, hchars, heq])
  cases hlike with
  | function hf => exact hf.body

/-- The text of a tree determines it, and does not depend on locations: two writable nodes have
the same text exactly if they differ in nothing but locations, whatever their size and nesting, and
so have two writable expressions. -/
theorem display_eq_iff :
    (∀ n n' : Node, n.Writable → n'.Writable → (n.display = n'.display ↔ n.Like .places n')) ∧
    ∀ e e' : Expr, e.Writable → e'.Writable → (e.display = e'.display ↔ e.Like .places e') := by
  refine ⟨fun n n' h h' => ⟨fun heq => ?_, fun hlike => ?_⟩,
    fun e e' h h' => ⟨fun heq => ?_, fun hlike => ?_⟩⟩
  · exact h.like_of_chars_eq h' (String.ofList_injective heq)
  · exact congrArg String.ofList hlike.chars_eq
  · exact h.like_of_chars_eq h' (String.ofList_injective heq)
  · exact congrArg String.ofList hlike.chars_eq

/-- The declaration `extern f(x)` on this line. -/
def declarationOn (line : Nat) : Node :=
  .external ⟨⟨"", line, 1⟩, "f", ["x"]⟩

/-- The name `f`. -/
def bareName : Expr :=
  .reference ⟨"", 1, 1⟩ "f"

/-- The call `f()`. -/
def emptyCall : Expr :=
  .call ⟨"", 1, 1⟩ "f" []

theorem display_declarationOn_bareName :
    ((declarationOn 1).Writable ∧ (declarationOn 2).Writable ∧
      (declarationOn 1).display = (declarationOn 2).display) ∧
    bareName.Writable ∧ emptyCall.Writable ∧ bareName.display ≠ emptyCall.display := by
  have f : IsName "f".toList := by decide
  have x : IsName "x".toList := by decide
  have hdeclaration (line : Nat) : (declarationOn line).Writable :=
    .external ⟨f, by simpa using x⟩
  have hlike : (declarationOn 1).Like .places (declarationOn 2) :=
    .external ⟨trivial, rfl, .cons rfl .nil⟩
  have hname : bareName.Writable := .reference f
  have hcall : emptyCall.Writable := .call f (by simp)
  refine ⟨⟨hdeclaration 1, hdeclaration 2, ?_⟩, hname, hcall, fun heq => ?_⟩
  · exact (display_eq_iff.1 _ _ (hdeclaration 1) (hdeclaration 2)).2 hlike
  · exact nomatch (display_eq_iff.2 _ _ hname hcall).1 heq

end Kaleidoscope
