import Kaleidoscope.Proofs.Parallel

/-!
Statements on both sides of a `;` do not affect one another, well formed or not: what a run
delivers over the whole is what it delivers in front of the `;` and then what a run over the rest
delivers (`events_run_append`). This is `Parallel` where the tokens of the window are the same.
-/

namespace Kaleidoscope

/-- No difference. -/
def Likeness.same : Likeness where
  location := Eq
  name := Eq
  value := Eq
  anonymous := rfl

/-- The same tokens in front of these two. -/
def Window.same (behind behind' : List Token) : Window :=
  { Likeness.same with behind, behind' }

@[simp] theorem Window.behind_same (behind behind' : List Token) :
    (same behind behind').behind = behind := rfl

@[simp] theorem Window.behind'_same (behind behind' : List Token) :
    (same behind behind').behind' = behind' := rfl

theorem Token.like_same (t : Token) : t.Like Likeness.same t := by
  refine ⟨?_, rfl⟩
  cases t.kind with
  | identifier x => exact .identifier rfl
  | number v => exact .number rfl
  | endOfInput => exact .endOfInput
  | defWord => exact .defWord
  | externWord => exact .externWord
  | char c => exact .char c

theorem Expr.Like.eq {e e' : Expr} (h : e.Like Likeness.same e') : e = e' := by
  induction h with
  | number hl hv =>
      obtain rfl : _ = _ := hl
      obtain rfl : _ = _ := hv
      rfl
  | reference hl hx =>
      obtain rfl : _ = _ := hl
      obtain rfl : _ = _ := hx
      rfl
  | binary hl _ _ ih ih' =>
      obtain rfl : _ = _ := hl
      rw [ih, ih']
  | call hl hx _ ih =>
      obtain rfl : _ = _ := hl
      obtain rfl : _ = _ := hx
      rw [List.map_congr_left ih]

theorem Prototype.Like.eq {p q : Prototype} (h : p.Like Likeness.same q) : p = q := by
  obtain ⟨l, x, ps⟩ := p
  obtain ⟨l', x', ps'⟩ := q
  obtain rfl : l = l' := h.location
  obtain rfl : x = x' := h.name
  obtain rfl : ps = ps' := List.forall₂_eq_eq_eq ▸ h.parameters
  rfl

theorem Function.Like.eq {f g : Function} (h : f.Like Likeness.same g) : f = g := by
  obtain ⟨p, e⟩ := f
  obtain ⟨p', e'⟩ := g
  obtain rfl := h.prototype.eq
  obtain rfl := h.body.eq
  rfl

theorem Item.Like.eq {a b : Item} (h : a.Like Likeness.same b) : a = b := by
  cases h with
  | statement hs =>
      cases hs with
      | definition hf => rw [hf.eq]
      | external hp => rw [hp.eq]
      | expression hf => rw [hf.eq]
  | separator => rfl
  | finish => rfl

theorem Event.Like.eq {a b : Event} (h : a.Like Likeness.same b) : a = b := by
  cases h with
  | node hn =>
      cases hn with
      | external hp => rw [hp.eq]
      | function hf => rw [hf.eq]
  | @fault d d' hl hc =>
      obtain ⟨l, cause⟩ := d
      obtain ⟨l', cause'⟩ := d'
      obtain rfl : l = l' := hl
      obtain rfl : cause = cause' := hc
      rfl

theorem Event.eq_of_forall₂_like {es es' : List Event}
    (h : List.Forall₂ (Event.Like Likeness.same) es es') : es = es' :=
  List.forall₂_eq_eq_eq ▸ h.imp fun _ _ => Event.Like.eq

namespace Cursor

variable {limit : Option Nat} {w : Window} {c c' d : Cursor} {ts : List Token}

theorem tracks_same {behind behind' : List Token} (hts : ts ≠ []) (hc : c.tokens = ts ++ behind)
    (hd : d.tokens = ts ++ behind') (hdepth : c.depth = d.depth) :
    c.Tracks (.same behind behind') d := by
  obtain ⟨t, rest, rfl⟩ := List.exists_cons_of_ne_nil hts
  exact ⟨hdepth, t, t, rest, rest, t.like_same, List.forall₂_same.2 fun u _ => u.like_same, hc, hd⟩

/-- What a run delivers depends on the tokens ahead and not on how many have been passed. -/
theorem events_of_tokens (hdepth : c.depth = d.depth) (h : c.tokens = d.tokens) :
    (c.readProgram limit).events = (d.readProgram limit).events := by
  have ht : c.Tracks (.same [] []) d :=
    tracks_same (by simp [tokens]) (List.append_nil _).symm (by rw [h, List.append_nil]) hdepth
  exact Event.eq_of_forall₂_like (events_like limit ht rfl)

/-- In the window a cursor stands on a token of the window. -/
theorem Tracks.current_mem (h : c'.Tracks w d) (hr : c.Reaches c')
    (hc : c.tokens = ts ++ w.behind) : c'.current ∈ ts := by
  obtain ⟨x, _, xs, _, -, -, hx, -⟩ := h.window
  obtain ⟨used, hp⟩ := reaches_iff.1 hr
  rw [hp.tokens_eq, hx, ← List.append_assoc] at hc
  rw [current_of_tokens hx, ← List.append_cancel_right hc]
  simp

end Cursor

namespace Token.Stream

variable {A B : List Token} {s : Token} {e : Location}

/-- A run over a separator goes on behind it as if nothing had been in front. -/
theorem events_append_separator (hA : ∀ t ∈ A, t.kind ≠ .endOfInput) (hs : s.kind = .char ';') :
    (run ⟨A ++ s :: B, e⟩).events = (run ⟨A ++ [s], e⟩).events ++ (run ⟨B, e⟩).events := by
  have hwhole : (Cursor.start ⟨A ++ s :: B, e⟩).tokens =
      (A ++ [s]) ++ (Cursor.start ⟨B, e⟩).tokens := by
    simp [Cursor.tokens, Cursor.start]
  have hfront : (Cursor.start ⟨A ++ [s], e⟩).tokens = (A ++ [s]) ++ [⟨.endOfInput, e⟩] := rfl
  have ht := Cursor.tracks_same (by simp) hwhole hfront rfl
  have hclosed : (Cursor.start ⟨A ++ s :: B, e⟩).Closed
      (.same (Cursor.start ⟨B, e⟩).tokens [⟨.endOfInput, e⟩]) :=
    ⟨A, s, hwhole.trans (List.append_assoc A [s] _), .inl hs⟩
  obtain ⟨es, es', c', d', hlike, hes, hes', hr, ⟨ht', hk⟩ | ⟨hc', hd'⟩⟩ :=
    Cursor.parallel (some nestingLimit) (.inl ⟨ht, hclosed⟩)
  -- no end of the input is in the window
  · rcases List.mem_append.1 (ht'.current_mem hr hwhole) with h | h
    · exact absurd hk (hA _ h)
    · rw [Cursor.kind, List.mem_singleton.1 h, hs] at hk
      contradiction
  -- the whole run goes on with `B`, and the other one has come to its end
  · obtain rfl := Event.eq_of_forall₂_like hlike
    have hk : d'.kind = .endOfInput := by
      rw [Cursor.kind, Cursor.current_of_tokens hd']
    rw [Cursor.events_of_end hk, List.append_nil] at hes'
    rw [run, hes, run, hes']
    exact congrArg _ (Cursor.events_of_tokens hr.depth_eq hc')

/-- Statements in front of a separator and behind it are isolated: a run delivers what the front
gives and then what the rest gives, with as many faults, whatever the tokens are. So another stretch
of tokens between two separators changes no event in front of the first or behind the second. -/
theorem events_run_append (A B : List Token) (s : Token) (e : Location)
    (hA : ∀ t ∈ A, t.kind ≠ .endOfInput) (hs : s.kind = .char ';') :
    (run ⟨A ++ s :: B, e⟩).events = (run ⟨A ++ [s], e⟩).events ++ (run ⟨B, e⟩).events ∧
      (run ⟨A ++ s :: B, e⟩).faults.length =
        (run ⟨A ++ [s], e⟩).faults.length + (run ⟨B, e⟩).faults.length ∧
      ∀ (M : List Token) (z : Token), (∀ t ∈ M, t.kind ≠ .endOfInput) → z.kind = .char ';' →
        (run ⟨A ++ s :: (M ++ z :: B), e⟩).events =
          (run ⟨A ++ [s], e⟩).events ++ (run ⟨M ++ [z], e⟩).events ++ (run ⟨B, e⟩).events := by
  have hevents := events_append_separator (B := B) (e := e) hA hs
  refine ⟨hevents, ?_, ?_⟩
  · rw [Run.faults, hevents, List.filterMap_append, List.length_append]
    rfl
  · intro M z hM hz
    rw [events_append_separator hA hs, events_append_separator hM hz, List.append_assoc]

/-- The tokens of `( x`, and a separator. -/
def unclosed : List Token :=
  [⟨.char '(', "", 1, 1⟩, ⟨.identifier "x", "", 1, 2⟩]

def separator : Token :=
  ⟨.char ';', "", 1, 3⟩

theorem events_run_append_unclosed :
    (∀ t ∈ unclosed, t.kind ≠ .endOfInput) ∧ separator.kind = .char ';' ∧
      (run ⟨unclosed ++ separator :: [⟨.char ')', "", 1, 4⟩], "", 1, 5⟩).events =
        (run ⟨unclosed ++ [separator], "", 1, 5⟩).events ++
          (run ⟨[⟨.char ')', "", 1, 4⟩], "", 1, 5⟩).events ∧
      (run ⟨unclosed ++ separator :: (unclosed ++ separator :: []), "", 1, 5⟩).events =
        (run ⟨unclosed ++ [separator], "", 1, 5⟩).events ++
          (run ⟨unclosed ++ [separator], "", 1, 5⟩).events ++ (run ⟨[], "", 1, 5⟩).events := by
  have hA : ∀ t ∈ unclosed, t.kind ≠ .endOfInput := by simp [unclosed]
  obtain ⟨hevents, -, -⟩ := events_run_append unclosed [⟨.char ')', "", 1, 4⟩] separator _ hA rfl
  obtain ⟨-, -, hmiddle⟩ := events_run_append unclosed [] separator _ hA rfl
  exact ⟨hA, rfl, hevents, hmiddle unclosed separator hA rfl⟩

end Token.Stream

end Kaleidoscope
