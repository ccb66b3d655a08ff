import Kaleidoscope.Proofs.Parametricity
import Kaleidoscope.Proofs.Printing
import Kaleidoscope.Proofs.Programs

/-!
What a run delivers. Each node comes from a statement that the grammar derives from the tokens of
its segment, whatever fails around it (`exists_deliveries`). The tokens of a text are canonical, and
a tree over canonical tokens is writable (`DerivesStatement.writable`), so a run over a text
delivers nothing that could not be written (`writable_of_mem_nodes`). Which kind of node it is shows
in the first token of the segment (`DerivesStatement.announces`) and in the text of the node.
-/

namespace Kaleidoscope

/-! ### Trees over canonical tokens -/

theorem Separated.flatten_sublist {pieces : List (List Token)} {ts : List Token}
    (h : Separated pieces ts) : pieces.flatten.Sublist ts := by
  induction h with
  | none => exact List.Sublist.refl []
  | one ts => simp
  | @more us _ _ _ t _ _ ih => exact (List.Sublist.refl us).append (ih.cons t)

theorem Separated.subset {pieces : List (List Token)} {ts piece : List Token}
    (h : Separated pieces ts) (hp : piece ∈ pieces) : piece ⊆ ts :=
  fun _ ht => h.flatten_sublist.subset (List.mem_flatten_of_mem hp ht)

theorem Listed.exists_of_mem {α : Type} {p : List Token → α → Prop} {ts : List Token} {xs : List α}
    {x : α} (h : Listed p ts xs) (hx : x ∈ xs) : ∃ us, us ⊆ ts ∧ p us x := by
  obtain ⟨pieces, rfl, hs, hp⟩ := h
  obtain ⟨a, ha, rfl⟩ := List.mem_map.1 hx
  exact ⟨a.1, hs.subset (List.mem_map_of_mem ha), hp a ha⟩

theorem Rank.operators_subset (r : Rank) : r.operators ⊆ ['<', '+', '-', '*'] := by
  cases r <;> decide

theorem Token.isName_of_canonical {t : Token} {name : String} (h : t.kind.Canonical)
    (hk : t.kind = .identifier name) : IsName name.toList := by
  rw [hk] at h
  cases h with
  | identifier h => exact h

theorem Derives.writable {r : Rank} {n : Nat} {ts : List Token} {e : Expr} (h : Derives r n ts e)
    (hc : ∀ t ∈ ts, t.kind.Canonical) : e.Writable := by
  induction h with
  | lift _ _ ih => exact ih hc
  | @apply r _ _ _ _ _ _ _ _ hk hop _ ih ih' =>
      obtain ⟨hleft, hright⟩ := List.forall_mem_append.1 hc
      exact .binary (r.operators_subset hop) (ih hleft) (ih' (List.forall_mem_cons.1 hright).2)
  | @number _ t value hk =>
      have hvalue := hc t (by simp)
      rw [hk] at hvalue
      cases hvalue with
      | number hf hs => exact .number hf hs
  | reference hk => exact .reference (Token.isName_of_canonical (hc _ (by simp)) hk)
  | call hk _ hs _ _ ih =>
      refine .call (Token.isName_of_canonical (hc _ (by simp)) hk) fun e he => ?_
      obtain ⟨a, ha, rfl⟩ := List.mem_map.1 he
      have hpiece := hs.subset (List.mem_map_of_mem ha)
      exact ih a ha fun t ht => hc t (by simp [hpiece ht])
  | nested _ _ _ ih => exact ih fun t ht => hc t (by simp [ht])

theorem DerivesPrototype.writable {ts : List Token} {p : Prototype} (h : DerivesPrototype ts p)
    (hc : ∀ t ∈ ts, t.kind.Canonical) : p.Writable := by
  cases h with
  | intro hk _ hlist _ =>
      refine ⟨Token.isName_of_canonical (hc _ (by simp)) hk, fun x hx => ?_⟩
      obtain ⟨us, hus, t, rfl, ht⟩ := hlist.exists_of_mem hx
      have hmem := hus (List.mem_singleton_self t)
      exact Token.isName_of_canonical (hc t (by simp [hmem])) ht

theorem DerivesStatement.writable {n : Nat} {ts : List Token} {s : Statement}
    (h : DerivesStatement n ts s) (hc : ∀ t ∈ ts, t.kind.Canonical) : s.node.Writable := by
  cases h with
  | definition _ hproto hd =>
      exact .definition (hproto.writable fun t ht => hc t (by simp [ht]))
        (hd.writable fun t ht => hc t (by simp [ht]))
  | external _ hproto => exact .external (hproto.writable fun t ht => hc t (by simp [ht]))
  | expression hd => exact .expression rfl rfl (hd.writable hc)

/-! ### Writable trees are equal to themselves -/

theorem Expr.Writable.like_self {e : Expr} (h : e.Writable) : e.Like Likeness.equated e := by
  induction h with
  | number hf hs => exact .number rfl (Token.Kind.Canonical.number hf hs).beq_self
  | reference _ => exact .reference rfl rfl
  | binary _ _ _ ih ih' => exact .binary rfl ih ih'
  | call _ _ ih => exact .call_of_forall₂ rfl rfl (List.forall₂_same.2 ih)

theorem Prototype.like_self (p : Prototype) : p.Like Likeness.equated p :=
  ⟨rfl, rfl, List.forall₂_same.2 fun _ _ => rfl⟩

theorem Node.Writable.beq_self {n : Node} (h : n.Writable) : (n == n) = true := by
  refine Node.Like.beq ?_
  cases h with
  | external _ => exact .external (Prototype.like_self _)
  | definition _ he => exact .function ⟨Prototype.like_self _, he.like_self⟩
  | expression _ _ he => exact .function ⟨Prototype.like_self _, he.like_self⟩

/-! ### Kinds of node -/

/-- A word that the text of an expression starts with has no blank behind it. -/
theorem Expr.Writable.not_word_blank {e : Expr} {w : List Char} (h : e.Writable) (hw : IsWord w) :
    ¬w ++ [' '] <+: e.chars := by
  rintro ⟨more, hmore⟩
  rw [List.append_assoc, List.singleton_append] at hmore
  cases h with
  | @number _ value hf hs =>
      rw [chars_number] at hmore
      exact absurd ((Binary64.isNumeral_chars hf hs).2 ' ' (by simp [← hmore])) (by decide)
  | @reference _ name h =>
      rw [chars_reference] at hmore
      exact absurd (h.1.2 ' ' (by simp [← hmore])) (by decide)
  | binary _ _ _ =>
      obtain ⟨c, w, rfl⟩ := List.exists_cons_of_ne_nil hw.1
      rw [chars_binary] at hmore
      obtain ⟨rfl, -⟩ := List.cons.inj hmore
      exact absurd (hw.2 '(' (by simp)) (by decide)
  | call h _ =>
      have hrest := congrArg (List.dropWhile isWordChar) hmore
      rw [chars_call, List.dropWhile_append_of_pos hw.2,
        List.dropWhile_append_of_pos h.1.2] at hrest
      have hblank : ' ' = '(' := (List.cons.inj hrest).1
      contradiction

namespace Node

/-- A function with a name. -/
def IsDefinition (n : Node) : Prop :=
  ∃ f, n = function f ∧ f.prototype.isAnonymous = false

def IsExternal (n : Node) : Prop :=
  ∃ p, n = external p

theorem Writable.prefix_def_iff {n : Node} (h : n.Writable) :
    "def ".toList <+: n.chars ↔ n.IsDefinition := by
  cases h with
  | @external p _ =>
      refine iff_of_false ?_ (by rintro ⟨f, ⟨⟩, -⟩)
      rintro ⟨more, hmore⟩
      have hchar : 'd' = 'e' := (List.cons.inj hmore).1
      contradiction
  | @definition f hp _ =>
      have hanonymous := hp.not_isAnonymous
      rw [chars_named hanonymous]
      exact iff_of_true ⟨_, rfl⟩ ⟨f, rfl, hanonymous⟩
  | expression hname _ he =>
      have hanonymous := Prototype.isAnonymous_of_name hname
      rw [chars_anonymous hanonymous]
      refine iff_of_false (he.not_word_blank (w := ['d', 'e', 'f']) (by decide)) ?_
      rintro ⟨g, ⟨⟩, hg⟩
      simp [hanonymous] at hg

theorem Writable.prefix_extern_iff {n : Node} (h : n.Writable) :
    "extern ".toList <+: n.chars ↔ n.IsExternal := by
  cases h with
  | @external p _ => exact iff_of_true ⟨_, rfl⟩ ⟨p, rfl⟩
  | definition hp _ =>
      rw [chars_named hp.not_isAnonymous]
      refine iff_of_false ?_ (by rintro ⟨p, ⟨⟩⟩)
      rintro ⟨more, hmore⟩
      have hchar : 'e' = 'd' := (List.cons.inj hmore).1
      contradiction
  | expression hname _ he =>
      rw [chars_anonymous (Prototype.isAnonymous_of_name hname)]
      refine iff_of_false (he.not_word_blank (w := ['e', 'x', 't', 'e', 'r', 'n']) (by decide)) ?_
      rintro ⟨p, ⟨⟩⟩

end Node

/-- The first token of a statement tells which kind of node it gives. -/
structure Token.Announces (t : Token) (n : Node) : Prop where
  definition : t.kind = .defWord ↔ n.IsDefinition
  external : t.kind = .externWord ↔ n.IsExternal
  bare : t.kind ≠ .defWord ∧ t.kind ≠ .externWord ↔
    ∃ f, n = .function f ∧ f.prototype = .anonymous t.location

theorem DerivesStatement.announces {n : Nat} {ts : List Token} {s : Statement}
    (h : DerivesStatement n ts s) (hc : ∀ t ∈ ts, t.kind.Canonical) :
    ∃ t rest, ts = t :: rest ∧ t.Announces s.node := by
  cases h with
  | @definition t ps ts p e hk hproto hd =>
      have hp := (hproto.writable fun t ht => hc t (by simp [ht])).not_isAnonymous
      refine ⟨t, ps ++ ts, rfl, iff_of_true hk ⟨_, rfl, hp⟩, ?_, ?_⟩
      · exact iff_of_false (by simp [hk]) (by rintro ⟨q, ⟨⟩⟩)
      · refine iff_of_false (by simp [hk]) ?_
        rintro ⟨f, ⟨⟩, hf⟩
        have hname : p.name = "" := congrArg Prototype.name hf
        simp [Prototype.isAnonymous_of_name hname] at hp
  | @external t ps p hk hproto =>
      refine ⟨t, ps, rfl, ?_, iff_of_true hk ⟨p, rfl⟩, ?_⟩
      · exact iff_of_false (by simp [hk]) (by rintro ⟨f, ⟨⟩, -⟩)
      · exact iff_of_false (by simp [hk]) (by rintro ⟨f, ⟨⟩, -⟩)
  | @expression t ts e hd =>
      obtain ⟨t', ts', hts, hstarts⟩ := hd.head
      obtain ⟨rfl, rfl⟩ := List.cons.inj hts
      have hdef := hstarts.ne_defWord
      have hextern := hstarts.ne_externWord
      refine ⟨t, ts, rfl, ?_, ?_, iff_of_true ⟨hdef, hextern⟩ ⟨_, rfl, rfl⟩⟩
      · refine iff_of_false hdef ?_
        rintro ⟨f, ⟨⟩, hf⟩
        contradiction
      · exact iff_of_false hextern (by rintro ⟨p, ⟨⟩⟩)

/-! ### Runs -/

def Step.fault? : Step → Option (Diagnostic GrammarFault)
  | fault d _ => some d
  | _ => none

theorem Run.faults_eq (r : Run) : r.faults = r.steps.filterMap Step.fault? := by
  obtain ⟨steps, final⟩ := r
  unfold faults events
  induction steps with
  | nil => rfl
  | cons step steps ih =>
      cases step with
      | separator => exact ih
      | statement s => exact ih
      | fault d n => exact congrArg (d :: ·) ih

theorem Run.ofText_ok_iff {name : String} {text : List Char} {run : Run} :
    ofText name text = .ok run ↔ ∃ st, Token.Stream.ofText name text = .ok st ∧ run = st.run := by
  unfold ofText
  cases Token.Stream.ofText name text <;> simp [Except.map, eq_comm]

namespace Cursor

/-- The statements of a run are those of the grammar, from the tokens of their segments. -/
theorem Cut.derivesStatement {m k : Nat} {c c' : Cursor} {segments : List Segment}
    (hc : c.depth + k = m) (h : c.Cut (some m) segments c') : ∀ segment ∈ segments, ∀ s,
      segment.step = .statement s → DerivesStatement k segment.tokens s := by
  induction h with
  | nil c => simp
  | cons ht _ ih =>
      refine List.forall_mem_cons.2 ⟨fun s hs => ?_, ih (by rw [ht.passes.depth_eq, hc])⟩
      cases ht with
      | separator _ => contradiction
      | statement hread hp _ =>
          obtain ⟨used, hp', hd, -⟩ := derives_of_readItem hc hread
          obtain rfl := hp.unique hp'
          obtain rfl := Step.statement.inj hs
          exact hd
      | fault _ _ => contradiction

end Cursor

namespace Token.Stream

variable {name : String} {text : List Char} {st : Stream}

/-- A run cuts the program into segments, and what it delivers are the nodes of the statements that
the grammar derives from the tokens of their segments. -/
theorem exists_deliveries (s : Stream) : ∃ segments : List Segment,
    (Cursor.start s).Segmented (some nestingLimit) segments s.run ∧
      segments.flatMap (·.tokens) = s.program ∧
      s.run.nodes = segments.filterMap (·.step.node?) ∧
      ∀ segment ∈ segments, ∀ n ∈ segment.step.node?, ∃ statement : Statement,
        statement.node = n ∧ DerivesStatement nestingLimit segment.tokens statement := by
  obtain ⟨segments, h, hprogram, -⟩ := exists_segmented s
  refine ⟨segments, h, hprogram, ?_, fun segment hmem n hn => ?_⟩
  · rw [Run.nodes_eq, h.steps, List.filterMap_map]
    rfl
  · have hd := h.cut.derivesStatement (Nat.zero_add nestingLimit) segment hmem
    cases hstep : segment.step with
    | statement s =>
        rw [hstep, Step.node?_statement] at hn
        exact ⟨s, Option.some.inj hn, hd s hstep⟩
    | separator => simp [hstep, Step.node?] at hn
    | fault d skipped => simp [hstep, Step.node?] at hn

theorem canonical_body (h : ofText name text = .ok st) : ∀ t ∈ st.body, t.kind.Canonical := by
  obtain ⟨kinds, hc, hkinds⟩ := canonical_of_ofText h
  rw [toList, List.map_append] at hkinds
  obtain ⟨rfl, -⟩ := List.append_inj' hkinds rfl
  exact List.forall_mem_map.1 hc

/-- Only the last token of a text ends the input. -/
theorem program_eq_body (h : ofText name text = .ok st) : st.program = st.body := by
  have hne : ∀ t ∈ st.body, t.kind ≠ .endOfInput := fun t ht => (canonical_body h t ht).ne_end
  exact (eq_firstEnd (passes_start hne) st.kind_cursorAt_length).1.symm

theorem canonical_of_segment {segments : List Segment} {segment : Segment}
    (h : ofText name text = .ok st) (hprogram : segments.flatMap (·.tokens) = st.program)
    (hmem : segment ∈ segments) : ∀ t ∈ segment.tokens, t.kind.Canonical := by
  intro t ht
  rw [program_eq_body h] at hprogram
  exact canonical_body h t (hprogram ▸ List.mem_flatMap_of_mem hmem ht)

theorem writable_of_mem_nodes (h : ofText name text = .ok st) : ∀ n ∈ st.run.nodes, n.Writable := by
  obtain ⟨segments, -, hprogram, hnodes, hd⟩ := exists_deliveries st
  intro n hn
  rw [hnodes] at hn
  obtain ⟨segment, hmem, hstep⟩ := List.mem_filterMap.1 hn
  obtain ⟨statement, rfl, hs⟩ := hd segment hmem n hstep
  exact hs.writable (canonical_of_segment h hprogram hmem)

/-- A run over a text delivers nothing but trees of the grammar, whatever fails around them, and
each of them is equal to itself. The first token of a statement says which kind of node it gives,
and so does the text of the node. -/
theorem writable_nodes_run (h : ofText name text = .ok st) :
    (∀ n ∈ st.run.nodes, n.Writable ∧ ("def ".toList <+: n.chars ↔ n.IsDefinition) ∧
        ("extern ".toList <+: n.chars ↔ n.IsExternal)) ∧
      (st.run.nodes == st.run.nodes) = true ∧
      ∃ segments : List Segment, (Cursor.start st).Cut (some nestingLimit) segments st.run.final ∧
        segments.flatMap (·.tokens) = st.body ∧
        st.run.nodes = segments.filterMap (·.step.node?) ∧
        ∀ segment ∈ segments, ∀ n ∈ segment.step.node?,
          ∃ t rest, segment.tokens = t :: rest ∧ t.Announces n := by
  obtain ⟨segments, hrun, hprogram, hnodes, hd⟩ := exists_deliveries st
  have hwritable := writable_of_mem_nodes h
  refine ⟨fun n hn => ?_, ?_, segments, hrun.cut, ?_, hnodes, fun segment hmem n hn => ?_⟩
  · have hn := hwritable n hn
    exact ⟨hn, hn.prefix_def_iff, hn.prefix_extern_iff⟩
  · exact beq_iff_forall₂.2 (List.forall₂_same.2 fun n hn => (hwritable n hn).beq_self)
  · rw [hprogram, program_eq_body h]
  · obtain ⟨statement, rfl, hs⟩ := hd segment hmem n hn
    exact hs.announces (canonical_of_segment h hprogram hmem)

/-- What stands around a fault is delivered. -/
theorem writable_nodes_run_strayClosing : ∃ st, ofText "" "x ); y".toList = .ok st ∧
    st.run.nodes.map Node.display = ["x", "y"] ∧ st.run.faults.map (·.location) = [⟨"", 1, 3⟩] ∧
      (∀ n ∈ st.run.nodes, n.Writable) ∧ (st.run.nodes == st.run.nodes) = true := by
  have h : (ofText "" "x ); y".toList).map (fun st =>
      (st.run.nodes.map Node.display, st.run.faults.map (·.location))) =
      .ok (["x", "y"], [⟨"", 1, 3⟩]) := by decide +kernel
  cases hst : ofText "" "x ); y".toList with
  | error d =>
      rw [hst] at h
      contradiction
  | ok st =>
      rw [hst] at h
      obtain ⟨hdisplay, hfaults⟩ := Prod.mk.inj (Except.ok.inj h)
      obtain ⟨hnodes, hself, -⟩ := writable_nodes_run hst
      exact ⟨st, rfl, hdisplay, hfaults, fun n hn => (hnodes n hn).1, hself⟩

end Token.Stream

end Kaleidoscope
