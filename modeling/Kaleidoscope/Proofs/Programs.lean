import Kaleidoscope.Proofs.Joining
import Kaleidoscope.Proofs.Statements

/-!
Runs accept the program language. A run without faults cuts its tokens into separators and
statements that are apart from one another (`Cut.derives`), any such cut is what a run does
(`cut_of_derives`), and a run does only one thing (`Cut.unique`). Other cuts are no less of a
program, since they can be joined into one of this kind.
-/

namespace Kaleidoscope

/-- The node of a step: the function of a definition or of a bare expression, the prototype of an
external declaration. -/
def Step.node? : Step → Option Node
  | statement (.definition f) => some (.function f)
  | statement (.external p) => some (.external p)
  | statement (.expression f) => some (.function f)
  | separator | fault _ _ => none

@[simp] theorem Step.node?_statement (s : Statement) : (statement s).node? = some s.node := by
  cases s <;> rfl

theorem Run.nodes_eq (r : Run) : r.nodes = r.steps.filterMap Step.node? := by
  obtain ⟨steps, final⟩ := r
  unfold nodes events
  induction steps with
  | nil => rfl
  | cons step steps ih =>
      cases step with
      | separator => exact ih
      | statement s =>
          rw [List.filterMap_cons_some (Step.node?_statement s)]
          exact congrArg (s.node :: ·) ih
      | fault d n => exact ih

theorem Run.faults_eq_nil_iff (r : Run) :
    r.faults = [] ↔ ∀ step ∈ r.steps, step.isFault = false := by
  rw [← List.length_eq_zero_iff, length_faults, List.countP_eq_zero]
  simp

/-! ### Statements in a row -/

/-- No operator starts a statement. -/
theorem Token.Kind.StartsExpression.operator_eq_none {k : Kind} (h : k.StartsExpression) :
    k.operator? = none := by
  cases k with
  | char c =>
      obtain rfl : c = '(' := h
      rfl
  | _ => rfl

theorem Token.Kind.StartsExpression.ne_defWord {k : Kind} (h : k.StartsExpression) :
    k ≠ .defWord := by
  rintro rfl
  exact h

theorem Token.Kind.StartsExpression.ne_externWord {k : Kind} (h : k.StartsExpression) :
    k ≠ .externWord := by
  rintro rfl
  exact h

theorem DerivesStatement.head {n : Nat} {ts : List Token} {s : Statement}
    (h : DerivesStatement n ts s) :
    ∃ t rest, ts = t :: rest ∧ t.kind.operator? = none ∧ t.kind ≠ .endOfInput := by
  cases h with
  | definition hk _ _ => exact ⟨_, _, rfl, by rw [hk]; rfl, by simp [hk]⟩
  | external hk _ => exact ⟨_, _, rfl, by rw [hk]; rfl, by simp [hk]⟩
  | expression hd =>
      obtain ⟨t, rest, ht, hs⟩ := hd.head
      exact ⟨t, rest, ht, hs.operator_eq_none, (hd.within t (by simp [ht])).1⟩

theorem Segment.Derived.head {n : Nat} {segment : Segment} (h : segment.Derived n) :
    ∃ t rest, segment.tokens = t :: rest ∧ t.kind.operator? = none := by
  cases h with
  | separator hk => exact ⟨_, _, rfl, by rw [hk]; rfl⟩
  | statement h =>
      obtain ⟨t, rest, ht, hop, -⟩ := h.head
      exact ⟨t, rest, ht, hop⟩

namespace Cursor

variable {limit : Option Nat} {m k : Nat} {c c₁ c₂ c' : Cursor} {ts us : List Token}
  {a b segment : Segment} {segments segments' : List Segment}

theorem EndsStatement.stopsAfter {n : Nat} {s : Statement} (h : c.EndsStatement ts s)
    (hd : DerivesStatement n ts s) : c.StopsAfter ts := by
  cases hd with
  | definition _ _ _ => exact h.2
  | @external t ps p _ hproto =>
      rintro ⟨hn, -⟩
      rw [← List.singleton_append, endsInName_append hproto.ne_nil] at hn
      exact hproto.not_endsInName hn
  | expression _ => exact h.2

/-- What stands behind a segment does not belong to it, if it is another segment apart from it or
the end of the input. -/
theorem ends_segment (hd : ∀ b ∈ segments.head?, Segment.Derived k b)
    (ha : ∀ b ∈ segments.head?, a.Apart b) (hp : c.Passes (segments.flatMap (·.tokens)) c')
    (he : c'.kind = .endOfInput) : c.kind.operator? = none ∧ c.StopsAfter a.tokens := by
  cases segments with
  | nil =>
      obtain rfl := passes_nil.1 hp
      exact (ends_input he).imp_right fun h => h a.tokens
  | cons b more =>
      obtain ⟨t, rest, ht, hop⟩ := (hd b rfl).head
      rw [List.flatMap_cons, ht, List.cons_append] at hp
      obtain ⟨rfl, -⟩ := passes_cons.1 hp
      refine ⟨hop, fun h => ha b rfl ⟨h.1, ?_⟩⟩
      rw [ht]
      exact startsInParenthesis_cons.2 h.2

/-- Separators and statements that are apart from one another are what a run takes. -/
theorem cut_of_derives (hc : c.depth + k = m) (h : DerivesProgram k ts segments)
    (ha : segments.IsChain Segment.Apart) (hp : c.Passes ts c') (he : c'.kind = .endOfInput) :
    c.Cut (some m) segments c' := by
  induction segments generalizing c ts with
  | nil =>
      obtain ⟨rfl, -⟩ := h
      obtain rfl := passes_nil.1 hp
      exact .nil c'
  | cons a rest ih =>
      obtain ⟨us, rfl, hd, hrest⟩ := derivesProgram_cons.1 h
      obtain ⟨c₁, hp₁, hp₂⟩ := passes_append.1 hp
      obtain ⟨hapart, hchain⟩ := List.isChain_cons.1 ha
      refine .cons ?_ (ih (by rw [hp₁.depth_eq, hc]) hrest hchain hp₂)
      have hends := ends_segment (fun b hb => hrest.derived b (List.mem_of_mem_head? hb)) hapart
        (hrest.tokens ▸ hp₂) he
      cases hd with
      | separator hk =>
          obtain ⟨rfl, -, rfl⟩ := passes_singleton.1 hp₁
          exact .separator hk
      | statement hs =>
          have hread := readItem_of_derives hc hp₁ hs (endsStatement_of hends.1 hends.2)
          exact .statement hread hp₁ fun t ht => (hs.within t ht).2

/-- A run without faults takes separators and statements that are apart from one another. -/
theorem Cut.derives (hc : c.depth + k = m) (h : c.Cut (some m) segments c')
    (hf : ∀ segment ∈ segments, segment.step.isFault = false) :
    (∀ segment ∈ segments, segment.Derived k) ∧ segments.IsChain Segment.Apart := by
  induction h with
  | nil c => exact ⟨by simp, .nil⟩
  | @cons c c₁ c' a rest ht hcut ih =>
      obtain ⟨hfa, hf⟩ := List.forall_mem_cons.1 hf
      obtain ⟨hd, hchain⟩ := ih (by rw [ht.passes.depth_eq, hc]) hf
      have hfirst : a.Derived k ∧ c₁.StopsAfter a.tokens := by
        cases ht with
        | separator hk =>
            have hk : c.current.kind = .char ';' := hk
            exact ⟨.separator hk, by simp [StopsAfter, hk]⟩
        | statement hread hp _ =>
            obtain ⟨used, hp', hs, hends⟩ := derives_of_readItem hc hread
            obtain rfl := hp.unique hp'
            exact ⟨.statement hs, hends.stopsAfter hs⟩
        | fault _ _ => contradiction
      refine ⟨List.forall_mem_cons.2 ⟨hfirst.1, hd⟩, List.isChain_cons.2 ⟨?_, hchain⟩⟩
      rintro b hb ⟨hn, hpar⟩
      refine hfirst.2 ⟨hn, ?_⟩
      -- the next segment starts at the cursor behind this one
      obtain ⟨more, rfl⟩ := List.head?_eq_some_iff.1 hb
      cases hcut with
      | cons ht' _ =>
          obtain ⟨t, rest, hts⟩ := List.exists_cons_of_ne_nil ht'.tokens_ne_nil
          have hp := ht'.passes
          rw [hts] at hp hpar
          obtain ⟨rfl, -⟩ := passes_cons.1 hp
          exact startsInParenthesis_cons.1 hpar

/-! ### Only one run -/

theorem Takes.unique (h : c.Takes limit a c₁) (h' : c.Takes limit b c₂)
    (hf : a.step.isFault = false) : a = b ∧ c₁ = c₂ := by
  cases h with
  | separator hk =>
      have hread : c.readItem limit = .ok (.separator, c.next) := readItem_separator hk
      cases h' with
      | separator _ => exact ⟨rfl, rfl⟩
      | statement h _ _ => simp [hread] at h
      | fault h _ => simp [hread] at h
  | statement hread hp _ =>
      cases h' with
      | separator hk => simp [readItem_separator hk] at hread
      | statement hread' hp' _ =>
          rw [hread] at hread'
          obtain ⟨hs, rfl⟩ := Prod.mk.inj (Except.ok.inj hread')
          obtain rfl := Item.statement.inj hs
          obtain rfl := hp.unique hp'
          exact ⟨rfl, rfl⟩
      | fault h _ => simp [hread] at h
  | fault _ _ => contradiction

theorem Cut.unique (h : c.Cut limit segments c₁) (he : c₁.kind = .endOfInput)
    (hf : ∀ segment ∈ segments, segment.step.isFault = false)
    (h' : c.Cut limit segments' c₂) (he' : c₂.kind = .endOfInput) : segments = segments' := by
  induction h generalizing segments' with
  | nil c =>
      cases h' with
      | nil _ => rfl
      | cons ht _ => exact absurd he ht.ne_end
  | cons ht _ ih =>
      obtain ⟨hfa, hf⟩ := List.forall_mem_cons.1 hf
      cases h' with
      | nil _ => exact absurd he' ht.ne_end
      | cons ht' hcut =>
          obtain ⟨rfl, rfl⟩ := ht.unique ht' hfa
          rw [ih he hf hcut]

end Cursor

theorem Segment.Derived.isFault_eq_false {n : Nat} {segment : Segment} (h : segment.Derived n) :
    segment.step.isFault = false := by
  cases h <;> rfl

namespace Token.Stream

section

variable {s : Stream} {segments other : List Segment}

/-- Any cut of a program into separators and statements that are apart from one another is what its
run did. -/
theorem eq_of_derivesProgram (h : (Cursor.start s).Segmented (some nestingLimit) segments s.run)
    (hd : DerivesProgram nestingLimit s.program other) (ha : other.IsChain Segment.Apart) :
    other = segments := by
  obtain ⟨hprogram, -⟩ := eq_firstEnd h.cut.passes h.ended
  have hcut := Cursor.cut_of_derives (Nat.zero_add nestingLimit) hd ha
    (hprogram ▸ h.cut.passes) h.ended
  exact hcut.unique h.ended (fun a hm => (hd.derived a hm).isFault_eq_false) h.cut h.ended

/-- What a run without faults did is such a cut. -/
theorem derivesProgram_of_faults (h : (Cursor.start s).Segmented (some nestingLimit) segments s.run)
    (hf : s.run.faults = []) :
    DerivesProgram nestingLimit s.program segments ∧ segments.IsChain Segment.Apart := by
  obtain ⟨hprogram, -⟩ := eq_firstEnd h.cut.passes h.ended
  rw [Run.faults_eq_nil_iff, h.steps, List.forall_mem_map] at hf
  obtain ⟨hd, ha⟩ := h.cut.derives (Nat.zero_add nestingLimit) hf
  exact ⟨⟨hprogram, hd⟩, ha⟩

/-- A run has no faults exactly if its tokens are a program, however they are cut. -/
theorem faults_eq_nil_iff (s : Stream) : s.run.faults = [] ↔
    ∃ segments, DerivesProgram nestingLimit s.program segments := by
  obtain ⟨segments, h, -⟩ := exists_segmented s
  constructor
  · exact fun hf => ⟨segments, (derivesProgram_of_faults h hf).1⟩
  · rintro ⟨other, hd⟩
    obtain ⟨apart, hd, ha⟩ := hd.exists_apart
    obtain rfl := eq_of_derivesProgram h hd ha
    rw [Run.faults_eq_nil_iff, h.steps, List.forall_mem_map]
    exact fun a hm => (hd.derived a hm).isFault_eq_false

end

/-- A run has no faults exactly if its tokens can be cut, in some way, into separators and
statements. There is then one such cut whose segments are apart from one another, and the run
delivers its nodes: of a definition the function with its prototype and body, of an external
declaration the prototype, and of an expression the function without a name that is located where
the expression starts. -/
theorem faults_run_eq_nil_iff (s : Stream) :
    (s.run.faults = [] ↔ ∃ segments, DerivesProgram nestingLimit s.program segments) ∧
      (s.run.faults = [] → ∃! segments, DerivesProgram nestingLimit s.program segments ∧
        segments.IsChain Segment.Apart) ∧
      ∀ segments, DerivesProgram nestingLimit s.program segments →
        segments.IsChain Segment.Apart → s.run.nodes = segments.filterMap (·.step.node?) := by
  obtain ⟨segments, h, -⟩ := exists_segmented s
  refine ⟨faults_eq_nil_iff s, fun hf => ?_, fun other hd ha => ?_⟩
  · exact ⟨segments, derivesProgram_of_faults h hf,
      fun other ⟨hd, ha⟩ => eq_of_derivesProgram h hd ha⟩
  · obtain rfl := eq_of_derivesProgram h hd ha
    rw [Run.nodes_eq, h.steps, List.filterMap_map]
    rfl

/-- The tokens of `def f ( x ) x extern g ( ) h ( y )`. -/
def declarationsAndCall : Stream :=
  ofKinds [.defWord, .identifier "f", .char '(', .identifier "x", .char ')', .identifier "x",
    .externWord, .identifier "g", .char '(', .char ')', .identifier "h", .char '(',
    .identifier "y", .char ')']

/-- The last two statements of one cut are one call in the other: a run delivers the call. -/
theorem nodes_run_declarationsAndCall :
    DerivesProgram nestingLimit declarationsAndCall.program
        [⟨declarationsAndCall.toList.extract 0 6,
          .statement (.definition ⟨⟨⟨"", 1, 2⟩, "f", ["x"]⟩, .reference ⟨"", 1, 6⟩ "x"⟩)⟩,
        ⟨declarationsAndCall.toList.extract 6 10,
          .statement (.external ⟨⟨"", 1, 8⟩, "g", []⟩)⟩,
        ⟨declarationsAndCall.toList.extract 10 11,
          .statement (.expression ⟨.anonymous ⟨"", 1, 11⟩, .reference ⟨"", 1, 11⟩ "h"⟩)⟩,
        ⟨declarationsAndCall.toList.extract 11 14,
          .statement (.expression ⟨.anonymous ⟨"", 1, 12⟩, .reference ⟨"", 1, 13⟩ "y"⟩)⟩] ∧
      declarationsAndCall.run.faults = [] ∧
      declarationsAndCall.run.nodes =
        [.function ⟨⟨⟨"", 1, 2⟩, "f", ["x"]⟩, .reference ⟨"", 1, 6⟩ "x"⟩,
          .external ⟨⟨"", 1, 8⟩, "g", []⟩,
          .function ⟨.anonymous ⟨"", 1, 11⟩,
            .call ⟨"", 1, 11⟩ "h" [.reference ⟨"", 1, 13⟩ "y"]⟩] := by
  have name (t : Token) {n : Nat} {x : String} (hk : t.kind = .identifier x) :
      Derives .comparison (n + 1) [t] (.reference t.location x) := by
    have h : Derives .primary (n + 1) [t] (.reference t.location x) := .reference hk
    exact h.loosen (by decide)
  have definition : DerivesStatement nestingLimit (declarationsAndCall.toList.extract 0 6)
      (.definition ⟨⟨⟨"", 1, 2⟩, "f", ["x"]⟩, .reference ⟨"", 1, 6⟩ "x"⟩) :=
    .definition (t := ⟨.defWord, "", 1, 1⟩) rfl
      (@DerivesPrototype.intro ⟨.identifier "f", "", 1, 2⟩ ⟨.char '(', "", 1, 3⟩
        ⟨.char ')', "", 1, 5⟩ "f" _ _ rfl rfl
        (Listed.singleton_iff.2 ⟨⟨.identifier "x", "", 1, 4⟩, rfl, rfl⟩) rfl)
      (name ⟨.identifier "x", "", 1, 6⟩ rfl)
  have external : DerivesStatement nestingLimit (declarationsAndCall.toList.extract 6 10)
      (.external ⟨⟨"", 1, 8⟩, "g", []⟩) :=
    .external (t := ⟨.externWord, "", 1, 7⟩) rfl
      (@DerivesPrototype.intro ⟨.identifier "g", "", 1, 8⟩ ⟨.char '(', "", 1, 9⟩
        ⟨.char ')', "", 1, 10⟩ "g" _ _ rfl rfl (Listed.nil_iff.2 rfl) rfl)
  have h : Derives .comparison nestingLimit [⟨.identifier "h", "", 1, 11⟩]
      (.reference ⟨"", 1, 11⟩ "h") := name _ rfl
  have y : Derives .comparison 255 [⟨.identifier "y", "", 1, 13⟩]
      (.reference ⟨"", 1, 13⟩ "y") := name _ rfl
  have nested : Derives .primary nestingLimit _ (.reference ⟨"", 1, 13⟩ "y") :=
    .nested (o := ⟨.char '(', "", 1, 12⟩) (z := ⟨.char ')', "", 1, 14⟩) rfl y rfl
  have call : Derives .primary nestingLimit (declarationsAndCall.toList.extract 10 14)
      (.call ⟨"", 1, 11⟩ "h" [.reference ⟨"", 1, 13⟩ "y"]) :=
    @Derives.call 255 ⟨.identifier "h", "", 1, 11⟩ ⟨.char '(', "", 1, 12⟩
      ⟨.char ')', "", 1, 14⟩ "h" _
      [([⟨.identifier "y", "", 1, 13⟩], .reference ⟨"", 1, 13⟩ "y")] rfl rfl (.one _)
      (by simpa using y) rfl
  -- the cuts of the program: `h` and `( y )` are two statements in one and joined in the other
  have first := Segment.Derived.statement definition
  have second := Segment.Derived.statement external
  have third := Segment.Derived.statement (.expression h)
  have fourth := Segment.Derived.statement (.expression (nested.loosen (by decide)))
  have joined := Segment.Derived.statement (.expression (call.loosen (by decide)))
  have hnil : DerivesProgram nestingLimit [] [] := ⟨rfl, by simp⟩
  have hprogram := derivesProgram_cons.2 ⟨_, rfl, first, derivesProgram_cons.2 ⟨_, rfl, second,
    derivesProgram_cons.2 ⟨_, rfl, third, derivesProgram_cons.2 ⟨_, rfl, fourth, hnil⟩⟩⟩⟩
  have hjoined := derivesProgram_cons.2 ⟨_, rfl, first, derivesProgram_cons.2 ⟨_, rfl, second,
    derivesProgram_cons.2 ⟨_, rfl, joined, hnil⟩⟩⟩
  obtain ⟨hfaults, -, hnodes⟩ := faults_run_eq_nil_iff declarationsAndCall
  refine ⟨hprogram, hfaults.2 ⟨_, hprogram⟩, hnodes _ hjoined ?_⟩
  simp [Segment.Apart, StartsInParenthesis, declarationsAndCall, ofKinds, toList]

end Token.Stream

end Kaleidoscope
