import Kaleidoscope.Proofs.Isolation
import Kaleidoscope.Proofs.Places

/-!
One token of lookahead. What a reading gives and where it ends depends on the tokens that it passes
and on the one that it stops on, and neither on what is behind these nor on what is in front of the
place where it starts (`LooksOneAhead`). This is `Locality` for a window that ends with the token
stopped on, with no difference between its two sides.
-/

namespace Kaleidoscope

namespace Outcome

variable {α : Type} {V : α → α → Prop} {o o' : Outcome α}

/-- What a reading answers: a result, or what is wrong and where. -/
def result (o : Outcome α) : Except (Diagnostic GrammarFault) α :=
  match o with
  | .error f => .error f.diagnostic
  | .ok (a, _) => .ok a

theorem Alike.result_eq {behind behind' : List Token} (h : Alike (.same behind behind') V o o')
    (hV : ∀ a a', V a a' → a = a') : o'.result = o.result := by
  cases h with
  | @error f f' hcause ht =>
      have hlocation : f.cursor.location = f'.cursor.location := ht.location
      simp only [result, Failure.diagnostic, Failure.location, hcause, hlocation]
  | ok hv _ => simp only [result, hV _ _ hv]

end Outcome

namespace Cursor

/-- A reader that looks at nothing behind the token it stops on: from any place of a stream it ends
so many tokens further on, and from a place of any other stream where these tokens and the one that
it stopped on are ahead, it gives the same and ends as many tokens further on. -/
def LooksOneAhead {α : Type} (read : Cursor → Outcome α) : Prop :=
  ∀ (s : Token.Stream) (i : Nat), i < s.toList.length →
    ∃ n, i + n < s.toList.length ∧ (read (s.cursorAt i)).final = s.cursorAt (i + n) ∧
      ∀ (t : Token.Stream) (k : Nat), k < t.toList.length →
        t.toList.extract k (k + n + 1) = s.toList.extract i (i + n + 1) →
        (read (t.cursorAt k)).result = (read (s.cursorAt i)).result ∧
          (read (t.cursorAt k)).final = t.cursorAt (k + n)

section

variable {α : Type} {read : Cursor → Outcome α} {s : Token.Stream} {i : Nat}

/-- From a place of a stream a reader ends at another one. -/
theorem exists_final_eq (hm : ∀ c, (read c).Moves c) (hi : i < s.toList.length) :
    ∃ n, i + n < s.toList.length ∧ (read (s.cursorAt i)).final = s.cursorAt (i + n) := by
  rw [s.length_toList] at hi ⊢
  obtain ⟨used, hp⟩ := reaches_iff.1 (hm (s.cursorAt i)).final
  obtain ⟨hle, -, hfinal⟩ := Token.Stream.eq_of_passes (Nat.le_of_lt_succ hi) hp
  exact ⟨used.length, Nat.lt_succ_of_le hle, hfinal⟩

theorem looksOneAhead_of {V : Likeness → α → α → Prop} (hm : ∀ c, (read c).Moves c)
    (htracks : ∀ w c d, c.Tracks w d → (read c).Tracks w (V w.toLikeness) (read d))
    (hV : ∀ a a', V .same a a' → a = a') : LooksOneAhead read := by
  intro s i hi
  obtain ⟨n, hn, hfinal⟩ := exists_final_eq hm hi
  refine ⟨n, hn, hfinal, fun t k hk hsame => ?_⟩
  have hs := s.length_toList
  have ht := t.length_toList
  -- the other stream has these tokens, so it is as long
  have hlen := congrArg List.length hsame
  simp only [List.extract_eq_take_drop, List.length_take, List.length_drop] at hlen
  have hc := Token.Stream.tokens_cursorAt_add hn
  have hd : (t.cursorAt k).tokens = _ := Token.Stream.tokens_cursorAt_add (n := n) (by omega)
  rw [hsame] at hd
  have hne : s.toList.extract i (i + n + 1) ≠ [] := Token.Stream.extract_ne_nil hi (by omega)
  -- the reading ends on the last token of the window
  have hinside : s.toList.length - (i + n + 1) ≤ (read (s.cursorAt i)).final.remaining := by
    rw [hfinal, Token.Stream.remaining_cursorAt]
    omega
  have halike := htracks _ _ _ (tracks_same hne hc hd rfl) (by simpa using hinside)
  refine ⟨halike.result_eq hV, ?_⟩
  obtain ⟨n', hn', hfinal'⟩ := exists_final_eq hm hk
  have hremaining := halike.final.remaining_add
  simp only [hfinal, hfinal', Token.Stream.remaining_cursorAt, Window.behind_same,
    Window.behind'_same, List.length_drop] at hremaining
  obtain rfl : n' = n := by omega
  exact hfinal'

end

/-! ### The readers -/

variable (limit : Option Nat)

theorem looksOneAhead_readExpression : LooksOneAhead (readExpression limit) :=
  looksOneAhead_of (fun c => (stays_readExpression limit c).moves)
    (fun _ _ _ h => (readsAlike h).expression) fun _ _ => Expr.Like.eq

theorem looksOneAhead_readPrototype : LooksOneAhead readPrototype :=
  looksOneAhead_of (fun c => (stays_readPrototype c).moves)
    (fun _ _ _ => tracks_readPrototype) fun _ _ => Prototype.Like.eq

theorem looksOneAhead_readDefinition : LooksOneAhead (readDefinition limit) :=
  looksOneAhead_of (fun c => (stays_readDefinition limit c).moves)
    (fun _ _ _ => tracks_readDefinition) fun _ _ => Function.Like.eq

theorem looksOneAhead_readExtern : LooksOneAhead readExtern :=
  looksOneAhead_of (fun c => (stays_readExtern c).moves)
    (fun _ _ _ => tracks_readExtern) fun _ _ => Prototype.Like.eq

theorem looksOneAhead_readBare : LooksOneAhead (readBare limit) :=
  looksOneAhead_of (fun c => (stays_readBare limit c).moves)
    (fun _ _ _ => tracks_readBare) fun _ _ => Function.Like.eq

theorem looksOneAhead_readItem : LooksOneAhead (readItem limit) :=
  looksOneAhead_of (moves_readItem limit)
    (fun _ _ _ => tracks_readItem limit) fun _ _ => Item.Like.eq

/-- Every reader has one token of lookahead. -/
theorem readers_lookOneAhead : LooksOneAhead (readExpression limit) ∧
    LooksOneAhead readPrototype ∧ LooksOneAhead (readDefinition limit) ∧
    LooksOneAhead readExtern ∧ LooksOneAhead (readBare limit) ∧ LooksOneAhead (readItem limit) :=
  ⟨looksOneAhead_readExpression limit, looksOneAhead_readPrototype,
    looksOneAhead_readDefinition limit, looksOneAhead_readExtern,
    looksOneAhead_readBare limit, looksOneAhead_readItem limit⟩

end Cursor

end Kaleidoscope
