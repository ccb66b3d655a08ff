import Kaleidoscope.Program
import Kaleidoscope.Proofs.Locality

/-!
Runs side by side. A window is closed if it ends with a token that no statement reaches beyond: a
`;`, or an end of the input. A run over a closed window delivers the same whatever is behind the
window, up to a place where it has stopped, or where it is right behind the window and goes on as a
run that starts there (`parallel`). Where nothing is behind the window, this is about whole runs
(`events_like`).
-/

namespace Kaleidoscope

inductive Node.Like (R : Likeness) : Node → Node → Prop
  | external {p q : Prototype} : p.Like R q → Like R (.external p) (.external q)
  | function {f g : Function} : f.Like R g → Like R (.function f) (.function g)

inductive Event.Like (R : Likeness) : Event → Event → Prop
  | node {n n' : Node} : n.Like R n' → Like R (.node n) (.node n')
  | fault {d d' : Diagnostic GrammarFault} :
      R.location d.location d'.location → d.cause = d'.cause → Like R (.fault d) (.fault d')

theorem Statement.Like.node {R : Likeness} {s s' : Statement} (h : s.Like R s') :
    s.node.Like R s'.node := by
  cases h with
  | definition hf => exact .function hf
  | external hp => exact .external hp
  | expression hf => exact .function hf

namespace Cursor

variable {limit : Option Nat} {w : Window} {c c₁ c₂ d d₁ d₂ : Cursor} {used : List Token}

/-! ### Events step by step -/

theorem events_of_end (h : c.kind = .endOfInput) : (c.readProgram limit).events = [] := by
  rw [readProgram_eq, readItem_finish h]
  rfl

theorem events_of_separator (h : c.kind = .char ';') :
    (c.readProgram limit).events = (c.next.readProgram limit).events := by
  rw [readProgram_eq, readItem_separator h]
  rfl

theorem events_of_statement {s : Statement} (h : c.readItem limit = .ok (.statement s, c₁)) :
    (c.readProgram limit).events = .node s.node :: (c₁.readProgram limit).events := by
  rw [readProgram_eq, h]
  rfl

theorem events_of_fault {f : Failure} (h : c.readItem limit = .error f) :
    (c.readProgram limit).events =
      .fault f.diagnostic :: (f.cursor.skipStatement.readProgram limit).events := by
  rw [readProgram_eq, h]
  rfl

/-! ### Windows that end with a separator or the end of the input -/

/-- The window ends with a token that no statement reaches beyond. -/
def Closed (w : Window) (c : Cursor) : Prop :=
  ∃ xs x, c.tokens = xs ++ x :: w.behind ∧ (x.kind = .char ';' ∨ x.kind = .endOfInput)

/-- Both cursors are at the same place of a closed window, or right behind it. -/
def Abreast (w : Window) (c d : Cursor) : Prop :=
  c.Tracks w d ∧ c.Closed w ∨ c.tokens = w.behind ∧ d.tokens = w.behind'

theorem Closed.inside (h : c.Closed w) : w.behind.length ≤ c.remaining := by
  obtain ⟨xs, x, hc, -⟩ := h
  have hlen := congrArg List.length hc
  rw [length_tokens, List.length_append, List.length_cons] at hlen
  omega

theorem Passes.tokens_eq (h : c.Passes used c₁) : c.tokens = used ++ c₁.tokens := by
  obtain ⟨ha, -, he⟩ := h
  rw [tokens, ha, he, tokens, List.append_assoc]

/-- A cursor that moves within a statement does not leave a closed window. -/
theorem Closed.reachesWithin (h : c.Closed w) (hr : c.ReachesWithin c₁) : c₁.Closed w := by
  obtain ⟨xs, x, hc, hx⟩ := h
  obtain ⟨used, hp, hs⟩ := hr
  rw [hp.tokens_eq] at hc
  rcases List.append_eq_append_iff.1 hc with ⟨zs, rfl, hz⟩ | ⟨zs, rfl, hz⟩
  · exact ⟨zs, x, hz, hx⟩
  · cases zs with
    | nil => exact ⟨[], x, hz.symm, hx⟩
    -- the cursor has passed the token that closes the window
    | cons z zs =>
        obtain ⟨rfl, -⟩ := List.cons.inj hz
        have hmem : x ∈ xs ++ x :: zs := by simp
        exact absurd hx (not_or.2 ⟨hs x hmem, hp.2.1 x hmem⟩)

theorem abreast_next (h : c.Tracks w d) (hc : c.Closed w) (hk : c.kind ≠ .endOfInput) :
    c.next.Abreast w d.next := by
  have hk' := h.ne_end hk
  obtain ⟨xs, x, htokens, hx⟩ := hc
  rw [tokens_of_ne_end hk] at htokens
  cases xs with
  -- the token that closes the window
  | nil =>
      obtain ⟨_, y, xs, ys, -, hlike, hc, hd⟩ := h.window
      obtain ⟨-, hbehind⟩ := List.cons.inj htokens
      rw [tokens_of_ne_end hk, hbehind] at hc
      obtain rfl : xs = [] := List.self_eq_append_left.1 (List.cons.inj hc).2
      cases hlike
      rw [tokens_of_ne_end hk'] at hd
      exact .inr ⟨hbehind, (List.cons.inj hd).2⟩
  | cons t xs =>
      have hclosed : c.next.Closed w := ⟨xs, x, (List.cons.inj htokens).2, hx⟩
      exact .inl ⟨h.next hclosed.inside, hclosed⟩

theorem abreast_skipStatement (h : c.Tracks w d) (hc : c.Closed w) :
    c.skipStatement.Abreast w d.skipStatement := by
  induction c using ahead_induction generalizing d with
  | step c ih =>
      by_cases hk : c.kind = .endOfInput
      · rw [skipStatement_of_end hk, skipStatement_of_end (h.kind.end_iff.2 hk)]
        exact .inl ⟨h, hc⟩
      · by_cases hs : c.kind = .char ';'
        · rw [skipStatement_of_separator hs, skipStatement_of_separator (h.kind.char_iff.2 hs)]
          exact abreast_next h hc hk
        · have hk' := h.ne_end hk
          have hs' := h.ne_char hs
          have hclosed := hc.reachesWithin (reachesWithin_next hs)
          have hlt := remaining_next_lt hk
          rw [skipStatement_of_ne hk hs, skipStatement_of_ne hk' hs']
          exact ih _ (by omega) (h.next hclosed.inside) hclosed

/-- Where a run over a closed window stops: on an end of the input in it, or right behind it. -/
def Exit (w : Window) (c d : Cursor) : Prop :=
  c.Tracks w d ∧ c.kind = .endOfInput ∨ c.tokens = w.behind ∧ d.tokens = w.behind'

/-- Both runs deliver alike events up to where they leave the window. -/
def Parallel (limit : Option Nat) (w : Window) (c d : Cursor) : Prop :=
  ∃ es es' c' d', List.Forall₂ (Event.Like w.toLikeness) es es' ∧
    (c.readProgram limit).events = es ++ (c'.readProgram limit).events ∧
    (d.readProgram limit).events = es' ++ (d'.readProgram limit).events ∧
    c.Reaches c' ∧ c'.Exit w d'

theorem Exit.parallel (h : c.Exit w d) : Parallel limit w c d :=
  ⟨[], [], c, d, .nil, rfl, rfl, .refl c, h⟩

theorem Parallel.skip (h : Parallel limit w c₁ d₁) (hr : c.Reaches c₁)
    (hc : (c.readProgram limit).events = (c₁.readProgram limit).events)
    (hd : (d.readProgram limit).events = (d₁.readProgram limit).events) :
    Parallel limit w c d := by
  obtain ⟨es, es', c', d', hlike, hes, hes', hr', hexit⟩ := h
  exact ⟨es, es', c', d', hlike, hc.trans hes, hd.trans hes', hr.trans hr', hexit⟩

theorem Parallel.deliver {e e' : Event} (h : Parallel limit w c₁ d₁) (hr : c.Reaches c₁)
    (he : e.Like w.toLikeness e')
    (hc : (c.readProgram limit).events = e :: (c₁.readProgram limit).events)
    (hd : (d.readProgram limit).events = e' :: (d₁.readProgram limit).events) :
    Parallel limit w c d := by
  obtain ⟨es, es', c', d', hlike, hes, hes', hr', hexit⟩ := h
  refine ⟨e :: es, e' :: es', c', d', .cons he hlike, ?_, ?_, hr.trans hr', hexit⟩
  · rw [hc, hes, List.cons_append]
  · rw [hd, hes', List.cons_append]

theorem Closed.final {α : Type} {o : Outcome α} (h : c.Closed w) (hs : o.Stays c) :
    o.final.Closed w := by
  cases o with
  | error f => exact h.reachesWithin hs
  | ok a => exact h.reachesWithin hs

theorem parallel (limit : Option Nat) (h : c.Abreast w d) : Parallel limit w c d := by
  induction c using ahead_induction generalizing d with
  | step c ih =>
      obtain ⟨ht, hc⟩ | hbehind := h
      swap
      · exact Exit.parallel (.inr hbehind)
      by_cases hk : c.kind = .endOfInput
      · exact Exit.parallel (.inl ⟨ht, hk⟩)
      -- a separator
      by_cases hs : c.kind = .char ';'
      · have hlt := remaining_next_lt hk
        refine (ih _ (by omega) (abreast_next ht hc hk)).skip (reaches_next c) ?_ ?_
        · exact events_of_separator hs
        · exact events_of_separator (ht.kind.char_iff.2 hs)
      -- anything else: one reading, which ends in the window
      have hstays := stays_readItem limit c hs
      have hclosed := hc.final hstays
      have halike := tracks_readItem limit ht hclosed.inside
      generalize hread : c.readItem limit = o at *
      generalize hread' : d.readItem limit = o' at halike
      cases halike with
      | @error f f' hcause hf =>
          have hlt := skipStatement_lt_of_readItem hread
          refine (ih _ (by omega) (abreast_skipStatement hf hclosed)).deliver ?_
            (.fault hf.location hcause) (events_of_fault hread) (events_of_fault hread')
          exact (ReachesWithin.reaches hstays).trans (reaches_skipStatement f.cursor)
      | @ok item item' c₁ d₁ hitem h₁ =>
          have hlt := readItem_lt hread hk
          have hnext := ih _ (by omega) (.inl ⟨h₁, hclosed⟩)
          cases hitem with
          | statement hst =>
              exact hnext.deliver (ReachesWithin.reaches hstays) (.node hst.node)
                (events_of_statement hread) (events_of_statement hread')
          | separator => exact absurd (separator_of_readItem hread).1 hs
          | finish => exact absurd (end_of_readItem hread).1 hk

theorem Closed.of_behind_eq_nil (h : w.behind = []) : c.Closed w :=
  ⟨c.ahead, ⟨.endOfInput, c.finish⟩, by rw [h]; rfl, .inr rfl⟩

/-- What a run decides depends on no location, name or number. -/
theorem events_like (limit : Option Nat) (h : c.Tracks w d) (hb : w.behind = []) :
    List.Forall₂ (Event.Like w.toLikeness) (c.readProgram limit).events
      (d.readProgram limit).events := by
  obtain ⟨es, es', c', d', hlike, hes, hes', -, ⟨ht, hk⟩ | ⟨hc, -⟩⟩ :=
    parallel limit (.inl ⟨h, .of_behind_eq_nil hb⟩)
  · rwa [hes, hes', events_of_end hk, events_of_end (ht.kind.end_iff.2 hk), List.append_nil,
      List.append_nil]
  · have hlen := congrArg List.length hc
    simp [length_tokens, hb] at hlen

end Cursor

end Kaleidoscope
