import Kaleidoscope.Program
import Kaleidoscope.Proofs.Places

/-!
Runs cut their tokens into segments. Each step of a run takes some tokens, never none: a separator
takes itself, a statement what was read for it, and a fault everything through the next `;`. The
segments follow one another up to the first end of the input, so a run loses no token and uses
none twice, and it delivers the nodes and faults of its segments in their order (`run_segments`).
-/

namespace Kaleidoscope

/-- A step of a run and the tokens that it takes. -/
structure Segment where
  tokens : List Token
  step : Step

/-- What is delivered for segments in a row. A separator delivers nothing, a definition and a bare
expression their function, an external declaration its prototype, and a fault itself. -/
inductive Deliveries : List Segment → List Event → Prop
  | nil : Deliveries [] []
  | separator {ts : List Token} {segments : List Segment} {events : List Event} :
      Deliveries segments events → Deliveries (⟨ts, .separator⟩ :: segments) events
  | definition {ts : List Token} {f : Function} {segments : List Segment} {events : List Event} :
      Deliveries segments events →
      Deliveries (⟨ts, .statement (.definition f)⟩ :: segments) (.node (.function f) :: events)
  | external {ts : List Token} {p : Prototype} {segments : List Segment} {events : List Event} :
      Deliveries segments events →
      Deliveries (⟨ts, .statement (.external p)⟩ :: segments) (.node (.external p) :: events)
  | expression {ts : List Token} {f : Function} {segments : List Segment} {events : List Event} :
      Deliveries segments events →
      Deliveries (⟨ts, .statement (.expression f)⟩ :: segments) (.node (.function f) :: events)
  | fault {ts : List Token} {d : Diagnostic GrammarFault} {skipped : Nat} {segments : List Segment}
      {events : List Event} :
      Deliveries segments events →
      Deliveries (⟨ts, .fault d skipped⟩ :: segments) (.fault d :: events)

def Step.isFault : Step → Bool
  | fault _ _ => true
  | _ => false

def Token.Kind.isSeparator : Token.Kind → Bool
  | char ';' => true
  | _ => false

@[simp] theorem Token.Kind.isSeparator_iff {k : Token.Kind} :
    k.isSeparator = true ↔ k = .char ';' := by
  unfold isSeparator
  split <;> simp_all

/-- How many of the tokens are separators. -/
def separators (ts : List Token) : Nat :=
  ts.countP (·.kind.isSeparator)

namespace Cursor

/-- The tokens from one cursor to another one behind the first `;`, or on the end of the input
where there is no `;`. -/
def ToSeparator (c : Cursor) (ts : List Token) (c' : Cursor) : Prop :=
  c.Passes ts c' ∧
    ((∃ init z, ts = init ++ [z] ∧ z.kind = .char ';' ∧ ∀ t ∈ init, t.kind ≠ .char ';') ∨
      (∀ t ∈ ts, t.kind ≠ .char ';') ∧ c'.kind = .endOfInput)

/-- What a run does with the tokens between two cursors. -/
inductive Takes (limit : Option Nat) (c : Cursor) : Segment → Cursor → Prop
  | separator : c.kind = .char ';' → Takes limit c ⟨[c.current], .separator⟩ c.next
  | statement {ts : List Token} {s : Statement} {c' : Cursor} :
      c.readItem limit = .ok (.statement s, c') → c.Passes ts c' →
      (∀ t ∈ ts, t.kind ≠ .char ';') → Takes limit c ⟨ts, .statement s⟩ c'
  | fault {ts : List Token} {f : Failure} {c' : Cursor} :
      c.readItem limit = .error f → c.ToSeparator ts c' →
      Takes limit c ⟨ts, .fault f.diagnostic (c'.index - f.cursor.index)⟩ c'

/-- Segments one behind the other. -/
inductive Cut (limit : Option Nat) : Cursor → List Segment → Cursor → Prop
  | nil (c : Cursor) : Cut limit c [] c
  | cons {c c₁ c' : Cursor} {segment : Segment} {segments : List Segment} :
      c.Takes limit segment c₁ → Cut limit c₁ segments c' →
      Cut limit c (segment :: segments) c'

variable {limit : Option Nat} {c c₁ c' : Cursor} {ts us : List Token}
  {segment : Segment} {segments segments' : List Segment}

/-! ### Recovery -/

theorem toSeparator_skipStatement (c : Cursor) : ∃ ts, c.ToSeparator ts c.skipStatement := by
  by_cases he : c.kind = .endOfInput
  · rw [skipStatement_of_end he]
    exact ⟨[], passes_nil.2 rfl, .inr ⟨by simp, he⟩⟩
  · by_cases hs : c.kind = .char ';'
    · rw [skipStatement_of_separator hs]
      exact ⟨[c.current], passes_next he, .inl ⟨[], c.current, rfl, hs, by simp⟩⟩
    · rw [skipStatement_of_ne he hs]
      have := remaining_next_lt he
      obtain ⟨ts, hp, h⟩ := toSeparator_skipStatement c.next
      refine ⟨c.current :: ts, passes_cons.2 ⟨rfl, he, hp⟩, ?_⟩
      have hs : c.current.kind ≠ .char ';' := hs
      obtain ⟨init, z, rfl, hz, hi⟩ | ⟨h, hend⟩ := h
      · exact .inl ⟨c.current :: init, z, rfl, hz, by simpa using ⟨hs, hi⟩⟩
      · exact .inr ⟨by simpa using ⟨hs, h⟩, hend⟩
termination_by c.remaining

/-- Tokens without a `;` in front do not change where the next one is. -/
theorem ToSeparator.prepend (h : c₁.ToSeparator us c') (hp : c.Passes ts c₁)
    (hs : ∀ t ∈ ts, t.kind ≠ .char ';') : c.ToSeparator (ts ++ us) c' := by
  obtain ⟨hp', ⟨init, z, rfl, hz, hi⟩ | ⟨hu, hend⟩⟩ := h
  · refine ⟨hp.trans hp', .inl ⟨ts ++ init, z, by simp, hz, ?_⟩⟩
    intro t ht
    rcases List.mem_append.1 ht with ht | ht
    · exact hs t ht
    · exact hi t ht
  · refine ⟨hp.trans hp', .inr ⟨?_, hend⟩⟩
    intro t ht
    rcases List.mem_append.1 ht with ht | ht
    · exact hs t ht
    · exact hu t ht

/-! ### One segment -/

theorem Takes.passes (h : c.Takes limit segment c') : c.Passes segment.tokens c' := by
  cases h with
  | separator hk => exact passes_next (by simp [hk])
  | statement _ hp _ => exact hp
  | fault _ hp => exact hp.1

/-- Nothing is taken where the input ends. -/
theorem Takes.ne_end (h : c.Takes limit segment c') : c.kind ≠ .endOfInput := by
  intro hc
  cases h with
  | separator hk => simp [hc] at hk
  | statement h _ _ => exact ne_end_of_readItem h (by simp) hc
  | fault h _ => simp [readItem_finish hc] at h

theorem Takes.tokens_ne_nil (h : c.Takes limit segment c') : segment.tokens ≠ [] := by
  intro hnil
  have hne := h.ne_end
  have hp := h.passes
  rw [hnil, passes_nil] at hp
  cases h with
  | separator _ => contradiction
  | statement h _ _ =>
      subst hp
      exact Nat.lt_irrefl _ (readItem_lt h hne)
  | @fault ts f c' h hp' =>
      subst hp
      obtain ⟨-, ⟨init, z, hts, -⟩ | ⟨-, hend⟩⟩ := hp'
      · simp [hts] at hnil
      · exact hne hend

/-- A failure takes what was read before it and what recovering from it skips. -/
theorem takes_fault {f : Failure} (h : c.readItem limit = .error f) :
    ∃ ts, c.Takes limit
      ⟨ts, .fault f.diagnostic (f.cursor.skipStatement.index - f.cursor.index)⟩
      f.cursor.skipStatement := by
  have hs : c.kind ≠ .char ';' := by
    intro hk
    simp [readItem_separator hk] at h
  have hr := stays_readItem limit c hs
  rw [h] at hr
  obtain ⟨ts, hp, ht⟩ := hr
  obtain ⟨us, hu⟩ := toSeparator_skipStatement f.cursor
  exact ⟨ts ++ us, .fault h (hu.prepend hp ht)⟩

theorem takes_statement {s : Statement} (h : c.readItem limit = .ok (.statement s, c')) :
    ∃ ts, c.Takes limit ⟨ts, .statement s⟩ c' := by
  have hs : c.kind ≠ .char ';' := by
    intro hk
    simp [readItem_separator hk] at h
  have hr := stays_readItem limit c hs
  rw [h] at hr
  obtain ⟨ts, hp, ht⟩ := hr
  exact ⟨ts, .statement h hp ht⟩

/-! ### Whole runs -/

theorem Cut.passes (h : c.Cut limit segments c') : c.Passes (segments.flatMap (·.tokens)) c' := by
  induction h with
  | nil c => exact passes_nil.2 rfl
  | cons ht _ ih => exact ht.passes.trans ih

theorem Cut.tokens_ne_nil (h : c.Cut limit segments c') :
    ∀ segment ∈ segments, segment.tokens ≠ [] := by
  induction h with
  | nil c => simp
  | cons ht _ ih => simpa using ⟨ht.tokens_ne_nil, ih⟩

theorem cut_append : c.Cut limit (segments ++ segments') c' ↔
    ∃ c₁, c.Cut limit segments c₁ ∧ c₁.Cut limit segments' c' := by
  induction segments generalizing c with
  | nil =>
      constructor
      · exact fun h => ⟨c, .nil c, h⟩
      · rintro ⟨c₁, h, h'⟩
        cases h
        exact h'
  | cons segment segments ih =>
      constructor
      · intro h
        cases h with
        | cons ht h =>
            obtain ⟨c₁, h, h'⟩ := ih.1 h
            exact ⟨c₁, .cons ht h, h'⟩
      · rintro ⟨c₁, h, h'⟩
        cases h with
        | cons ht h => exact .cons ht (ih.2 ⟨c₁, h, h'⟩)

/-- The segments are what the run from the cursor to the end of the input did. -/
structure Segmented (limit : Option Nat) (c : Cursor) (segments : List Segment) (run : Run) :
    Prop where
  cut : c.Cut limit segments run.final
  steps : run.steps = segments.map (·.step)
  ended : run.final.kind = .endOfInput

theorem Segmented.cons {run : Run} (h : c₁.Segmented limit segments run)
    (ht : c.Takes limit segment c₁) :
    c.Segmented limit (segment :: segments) (run.cons segment.step) where
  cut := .cons ht h.cut
  steps := congrArg (segment.step :: ·) h.steps
  ended := h.ended

/-- A run takes one segment after the other, and ends where the input does. -/
theorem exists_segmented (limit : Option Nat) (c : Cursor) :
    ∃ segments, c.Segmented limit segments (c.readProgram limit) := by
  rw [readProgram_eq]
  cases h : c.readItem limit with
  | error f =>
      have := skipStatement_lt_of_readItem h
      obtain ⟨ts, ht⟩ := takes_fault h
      obtain ⟨segments, ih⟩ := exists_segmented limit f.cursor.skipStatement
      exact ⟨_, ih.cons ht⟩
  | ok read =>
      obtain ⟨item, c₁⟩ := read
      cases item with
      | finish =>
          obtain ⟨hk, rfl⟩ := end_of_readItem h
          exact ⟨[], .nil c₁, rfl, hk⟩
      | separator =>
          obtain ⟨hk, rfl⟩ := separator_of_readItem h
          have := remaining_next_lt (c := c) (by simp [hk])
          obtain ⟨segments, ih⟩ := exists_segmented limit c.next
          exact ⟨_, ih.cons (.separator hk)⟩
      | statement s =>
          have := readItem_lt h (ne_end_of_readItem h (by simp))
          obtain ⟨ts, ht⟩ := takes_statement h
          obtain ⟨segments, ih⟩ := exists_segmented limit c₁
          exact ⟨_, ih.cons ht⟩
termination_by c.remaining

/-! ### How many faults -/

/-- A fault segment that something follows ends with a separator. -/
theorem Takes.separators_pos (h : c.Takes limit segment c') (hf : segment.step.isFault = true)
    (hc : c'.kind ≠ .endOfInput) : 0 < separators segment.tokens := by
  cases h with
  | separator _ => contradiction
  | statement _ _ _ => contradiction
  | fault _ hp =>
      obtain ⟨-, ⟨init, z, rfl, hz, -⟩ | ⟨-, hend⟩⟩ := hp
      · simp [separators, hz]
      · contradiction

/-- Faults are apart: among any segments in a row, a separator stands between two of them. -/
theorem Cut.faults_le (h : c.Cut limit segments c') :
    segments.countP (·.step.isFault) ≤
      separators (segments.flatMap (·.tokens)).dropLast + 1 := by
  induction h with
  | nil c => simp
  | @cons c c₁ c' segment segments ht hcut ih =>
      cases hcut with
      | nil =>
          rw [List.countP_cons]
          simp only [List.countP_nil]
          split <;> omega
      | @cons _ c₂ _ second rest ht' hcut =>
          have hne : (second :: rest).flatMap (·.tokens) ≠ [] := by
            simp [ht'.tokens_ne_nil]
          rw [List.countP_cons, List.flatMap_cons, List.dropLast_append_of_ne_nil hne, separators,
            List.countP_append]
          show _ ≤ separators segment.tokens + separators _ + 1
          split
          -- a fault that is not the last segment has its separator among its tokens
          · have := ht.separators_pos ‹_› ht'.ne_end
            omega
          · omega

theorem Cut.length_le (h : c.Cut limit segments c') :
    segments.length ≤ (segments.flatMap (·.tokens)).length := by
  induction h with
  | nil c => simp
  | cons ht _ ih =>
      have := List.length_pos_iff.2 ht.tokens_ne_nil
      rw [List.flatMap_cons, List.length_append, List.length_cons]
      omega

end Cursor

theorem Run.length_faults (r : Run) : r.faults.length = r.steps.countP (·.isFault) := by
  obtain ⟨steps, final⟩ := r
  unfold faults events
  induction steps with
  | nil => rfl
  | cons step steps ih =>
      rw [List.countP_cons]
      cases step with
      | separator => exact ih
      | statement s => exact ih
      | fault d n => exact congrArg (· + 1) ih

/-- The events of steps are delivered for segments with these steps. -/
theorem deliveries_events (segments : List Segment) :
    Deliveries segments (segments.filterMap (·.step.event?)) := by
  induction segments with
  | nil => exact .nil
  | cons segment segments ih =>
      obtain ⟨ts, step⟩ := segment
      cases step with
      | separator => exact .separator ih
      | statement s =>
          cases s with
          | definition f => exact .definition ih
          | external p => exact .external ih
          | expression f => exact .expression ih
      | fault d skipped => exact .fault ih

theorem Deliveries.length_le {segments : List Segment} {events : List Event}
    (h : Deliveries segments events) : events.length ≤ segments.length := by
  induction h with
  | nil => exact Nat.le_refl 0
  | separator _ ih => exact Nat.le_succ_of_le ih
  | definition _ ih => exact Nat.succ_le_succ ih
  | external _ ih => exact Nat.succ_le_succ ih
  | expression _ ih => exact Nat.succ_le_succ ih
  | fault _ ih => exact Nat.succ_le_succ ih

namespace Token.Stream

/-- The segments of a run are the program, in front of the first end of the input. -/
theorem exists_segmented (s : Stream) : ∃ segments : List Segment,
    (Cursor.start s).Segmented (some nestingLimit) segments s.run ∧
      segments.flatMap (·.tokens) = s.program ∧ s.run.final = s.cursorAt s.firstEnd := by
  obtain ⟨segments, h⟩ := Cursor.exists_segmented (some nestingLimit) (Cursor.start s)
  exact ⟨segments, h, eq_firstEnd h.cut.passes h.ended⟩

/-- A run loses no token of the program and uses none twice: its segments are the program. What it
delivers is delivered for them, in their order and nothing else. Nowhere are there two faults
without a separator between them. -/
theorem run_segments (s : Stream) : ∃ segments : List Segment,
    (Cursor.start s).Cut (some nestingLimit) segments s.run.final ∧
      s.run.final = s.cursorAt s.firstEnd ∧
      segments.flatMap (·.tokens) = s.program ∧
      (∀ segment ∈ segments, segment.tokens ≠ []) ∧
      Deliveries segments s.run.events ∧
      s.run.faults.length = segments.countP (·.step.isFault) ∧
      s.run.events.length ≤ s.firstEnd ∧
      ∀ stretch, stretch <:+: segments → stretch.countP (·.step.isFault) ≤
        separators (stretch.flatMap (·.tokens)).dropLast + 1 := by
  obtain ⟨segments, h, hprogram, hfinal⟩ := exists_segmented s
  have hevents : Deliveries segments s.run.events := by
    rw [Run.events, h.steps, List.filterMap_map]
    exact deliveries_events segments
  refine ⟨segments, h.cut, hfinal, hprogram, h.cut.tokens_ne_nil, hevents, ?_, ?_, ?_⟩
  · rw [Run.length_faults, h.steps, List.countP_map]
    rfl
  · calc
      s.run.events.length ≤ segments.length := hevents.length_le
      _ ≤ (segments.flatMap (·.tokens)).length := h.cut.length_le
      _ = s.firstEnd := by rw [hprogram, length_program]
  · rintro stretch ⟨before, after, rfl⟩
    obtain ⟨c₁, hleft, -⟩ := Cursor.cut_append.1 h.cut
    obtain ⟨c₀, -, hcut⟩ := Cursor.cut_append.1 hleft
    exact hcut.faults_le

end Token.Stream

end Kaleidoscope
