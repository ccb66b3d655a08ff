import Kaleidoscope.Proofs.Boundaries
import Kaleidoscope.Proofs.Deliveries

/-!
Where the trees of a text come from. The tokens of a text stand one behind the other
(`pairwise_ofText`), and the expressions of a tree, listed in the order of the text, are located at
some of the tokens that it was read from, in their order (`Derives.inOrder_sublist`). So the nodes
of a run are located where they are written, one behind the other. The faults are located at tokens
of their segments, or at the end, and so in order, too (`Cut.faults_sublist`).
-/

namespace Kaleidoscope

/-! ### The order of locations -/

namespace Location

/-- On a line above, or further left on the same one. -/
def Before (l m : Location) : Prop :=
  l.line < m.line ∨ l.line = m.line ∧ l.column < m.column

variable {l m n : Location}

theorem Before.trans (h : l.Before m) (h' : m.Before n) : l.Before n := by
  unfold Before at *
  omega

theorem Before.ne (h : l.Before m) : l ≠ m := by
  rintro rfl
  unfold Before at h
  omega

theorem before_step (l : Location) (c : Char) : l.Before (l.step c) := by
  unfold step Before
  split <;> simp

theorem before_after {s : List Char} (hs : s ≠ []) : l.Before (l.after s) := by
  induction s generalizing l with
  | nil => contradiction
  | cons c s ih =>
      by_cases h : s = []
      · subst h
        exact before_step l c
      · exact (before_step l c).trans (ih h)

theorem behind_before (name : String) (before : List Char) {s : List Char} (hs : s ≠ []) :
    (behind name before).Before (behind name (before ++ s)) := by
  rw [← after_behind]
  exact before_after hs

end Location

theorem Piece.location_of_mem {name : String} {before : List Char} {pieces : List Piece} {t : Token}
    (h : t ∈ Piece.tokens name before pieces) : ∃ s, t.location = .behind name (before ++ s) := by
  induction pieces generalizing before with
  | nil => contradiction
  | cons p pieces ih =>
      rcases List.mem_cons.1 h with rfl | h
      · exact ⟨p.gap, rfl⟩
      · obtain ⟨s, hs⟩ := ih h
        exact ⟨p.chars ++ s, by rw [hs, List.append_assoc]⟩

theorem Piece.pairwise_tokens (name : String) (before : List Char) {pieces : List Piece}
    (h : ∀ p ∈ pieces, p.text ≠ []) :
    (Piece.tokens name before pieces).Pairwise (fun t u => t.location.Before u.location) := by
  induction pieces generalizing before with
  | nil => exact .nil
  | cons p pieces ih =>
      obtain ⟨hp, h⟩ := List.forall_mem_cons.1 h
      refine .cons (fun t ht => ?_) (ih _ h)
      obtain ⟨s, hs⟩ := location_of_mem ht
      have hne : p.text ++ s ≠ [] := by simp [hp]
      have hbefore := Location.behind_before name (before ++ p.gap) hne
      rw [hs]
      simpa [chars] using hbefore

namespace Token.Stream

variable {name : String} {text : List Char} {st : Stream}

/-- The tokens of a text stand one behind the other, in front of its end. -/
theorem pairwise_ofText (h : ofText name text = .ok st) :
    st.toList.Pairwise (fun t u => t.location.Before u.location) := by
  obtain ⟨pieces, last, hcut, rfl⟩ := exists_cutsInto_of_ofText h
  refine List.pairwise_append.2 ⟨?_, List.pairwise_singleton _ _, ?_⟩
  · exact Piece.pairwise_tokens name [] fun p hp => (hcut.spells p hp).ne_nil
  · intro t ht u hu
    obtain rfl := List.mem_singleton.1 hu
    obtain ⟨before, lexeme, rest, htext, hl, hs, -⟩ := standsIn_of_ofText h t ht
    have hbefore := Location.behind_before name before (s := lexeme ++ rest) (by simp [hs.ne_nil])
    rw [hl]
    rwa [← htext] at hbefore

/-- A run over a text ends where the text does. -/
theorem location_final {segments : List Segment} (h : ofText name text = .ok st)
    (hrun : (Cursor.start st).Segmented (some nestingLimit) segments st.run) :
    st.run.final.location = st.finish := by
  obtain ⟨-, hfinal⟩ := eq_firstEnd hrun.cut.passes hrun.ended
  have hend : st.firstEnd = st.body.length := by rw [← length_program, program_eq_body h]
  rw [hfinal, hend]
  simp [cursorAt, Cursor.location, Cursor.current]

end Token.Stream

/-! ### Trees in the order of the text -/

namespace Expr

mutual

/-- The expression and those inside it, in the order of the text: an operator stands between its
operands, and a callee in front of its arguments. -/
def inOrder : Expr → List Expr
  | number l value => [number l value]
  | reference l name => [reference l name]
  | binary l op left right => left.inOrder ++ binary l op left right :: right.inOrder
  | call l callee arguments => call l callee arguments :: inOrderAll arguments

def inOrderAll : List Expr → List Expr
  | [] => []
  | e :: es => e.inOrder ++ inOrderAll es

end

/-- The token that an expression is located at. -/
def token : Expr → Token
  | number l value => ⟨.number value, l⟩
  | reference l name => ⟨.identifier name, l⟩
  | binary l op _ _ => ⟨.char op, l⟩
  | call l callee _ => ⟨.identifier callee, l⟩

@[simp] theorem location_token (e : Expr) : e.token.location = e.location := by
  cases e <;> rfl

end Expr

theorem Expr.inOrderAll_sublist {arguments : List (List Token × Expr)}
    (h : ∀ a ∈ arguments, (a.2.inOrder.map token).Sublist a.1) :
    ((inOrderAll (arguments.map (·.2))).map token).Sublist (arguments.map (·.1)).flatten := by
  induction arguments with
  | nil => exact .slnil
  | cons a arguments ih =>
      obtain ⟨ha, h⟩ := List.forall_mem_cons.1 h
      rw [List.map_cons, List.map_cons, inOrderAll, List.map_append, List.flatten_cons]
      exact ha.append (ih h)

theorem Token.eq_mk {t : Token} {k : Token.Kind} (h : t.kind = k) : ⟨k, t.location⟩ = t := by
  rw [← h]

/-- The expressions of a tree are located at tokens that it was read from, in their order. -/
theorem Derives.inOrder_sublist {r : Rank} {n : Nat} {ts : List Token} {e : Expr}
    (h : Derives r n ts e) : (e.inOrder.map Expr.token).Sublist ts := by
  induction h with
  | lift _ _ ih => exact ih
  | apply _ hk _ _ ih ih' =>
      rw [Expr.inOrder, List.map_append, List.map_cons, Expr.token, Token.eq_mk hk]
      exact ih.append (ih'.cons_cons _)
  | number hk => simp [Expr.inOrder, Expr.token, Token.eq_mk hk]
  | reference hk => simp [Expr.inOrder, Expr.token, Token.eq_mk hk]
  | @call _ t o z _ ts _ hk _ hs _ _ ih =>
      have hall := (Expr.inOrderAll_sublist ih).trans hs.flatten_sublist
      have hmore : ts.Sublist (o :: ts ++ [z]) := (List.sublist_append_left ts [z]).cons o
      rw [Expr.inOrder, List.map_cons, Expr.token, Token.eq_mk hk]
      exact (hall.trans hmore).cons_cons t
  | @nested _ o z ts _ _ _ _ ih => exact ih.trans ((List.sublist_append_left ts [z]).cons o)

namespace Node

def prototype : Node → Prototype
  | external p => p
  | function f => f.prototype

/-- All expressions of the node, in the order of the text. -/
def expressions : Node → List Expr
  | external _ => []
  | function f => f.body.inOrder

/-- The node is located at one of the tokens, which is its name if it has one, and its expressions
are located at tokens from there on, in their order. -/
def ReadFrom (n : Node) (ts : List Token) : Prop :=
  ∃ t rest, (t :: rest).Sublist ts ∧ t.location = n.location ∧
    (n.prototype.isAnonymous = false → t.kind = .identifier n.prototype.name) ∧
    (n.expressions.map Expr.token).Sublist (t :: rest)

end Node

namespace Node.ReadFrom

variable {n : Node} {ts : List Token}

theorem token_mem (h : n.ReadFrom ts) : ∀ e ∈ n.expressions, e.token ∈ ts := by
  obtain ⟨t, rest, hsub, -, -, hexpressions⟩ := h
  exact fun e he => (hexpressions.trans hsub).subset (List.mem_map_of_mem he)

theorem exists_mem (h : n.ReadFrom ts) : ∃ t ∈ ts, t.location = n.location ∧
    (n.prototype.isAnonymous = false → t.kind = .identifier n.prototype.name) := by
  obtain ⟨t, rest, hsub, hl, hk, -⟩ := h
  exact ⟨t, hsub.subset (by simp), hl, hk⟩

theorem pairwise (h : n.ReadFrom ts) (ho : ts.Pairwise fun t u => t.location.Before u.location) :
    n.expressions.Pairwise fun d e => d.location.Before e.location := by
  obtain ⟨t, rest, hsub, -, -, hexpressions⟩ := h
  simpa [List.pairwise_map] using ho.sublist (hexpressions.trans hsub)

/-- No expression of a node is located in front of it. -/
theorem location_le (h : n.ReadFrom ts) (ho : ts.Pairwise fun t u => t.location.Before u.location) :
    ∀ e ∈ n.expressions, n.location = e.location ∨ n.location.Before e.location := by
  obtain ⟨t, rest, hsub, hl, -, hexpressions⟩ := h
  obtain ⟨ht, -⟩ := List.pairwise_cons.1 (ho.sublist hsub)
  intro e he
  rw [← hl, ← e.location_token]
  rcases List.mem_cons.1 (hexpressions.subset (List.mem_map_of_mem he)) with heq | hmem
  · exact .inl (by rw [heq])
  · exact .inr (ht _ hmem)

end Node.ReadFrom

theorem DerivesStatement.readFrom {n : Nat} {ts : List Token} {s : Statement}
    (h : DerivesStatement n ts s) : s.node.ReadFrom ts := by
  cases h with
  | @definition d ps ts p e _ hproto hd =>
      cases hproto with
      | @intro t o z name ps names hk _ _ _ =>
          refine ⟨t, ts, ?_, rfl, fun _ => hk, hd.inOrder_sublist.cons t⟩
          exact ((List.sublist_append_right (o :: ps ++ [z]) ts).cons_cons t).cons d
  | @external d ps p _ hproto =>
      cases hproto with
      | @intro t o z name ps names hk _ _ _ =>
          refine ⟨t, [], ?_, rfl, fun _ => hk, List.nil_sublist _⟩
          exact ((List.nil_sublist _).cons_cons t).cons d
  | @expression t ts e hd =>
      refine ⟨t, ts, List.Sublist.refl _, rfl, nofun, hd.inOrder_sublist⟩

/-! ### Faults -/

namespace Cursor

variable {limit : Option Nat} {c c₁ c' : Cursor} {ts us : List Token} {segment : Segment}
  {segments : List Segment}

/-- From a place within a statement, what recovery skips starts at that place, unless the input ends
there. -/
theorem ToSeparator.current_of_passes (h : c.ToSeparator ts c') (hp : c.Passes us c₁)
    (hs : ∀ t ∈ us, t.kind ≠ .char ';') :
    c₁.current ∈ ts ∨ c'.kind = .endOfInput ∧ c'.current = c₁.current := by
  obtain ⟨⟨ha, -, he⟩, hts⟩ := h
  obtain ⟨ha₁, hne, he₁⟩ := hp
  have hend (hsub : ts ⊆ us) : c'.kind = .endOfInput := by
    obtain ⟨init, z, rfl, hz, -⟩ | ⟨-, hend⟩ := hts
    · exact absurd hz (hs z (hsub (by simp)))
    · exact hend
  have hcurrent (hahead : c'.ahead = c₁.ahead) : c'.current = c₁.current := by
    have hfinish : c'.finish = c₁.finish := by rw [he, he₁]
    rw [current, current, hahead, hfinish]
  obtain ⟨more, rfl, hmore⟩ | ⟨more, rfl, hmore⟩ := List.append_eq_append_iff.1 (ha.symm.trans ha₁)
  · cases more with
    | nil => exact .inr ⟨hend (by simp), hcurrent hmore⟩
    | cons t more =>
        -- the end of the input would have been passed
        have hk := hend (List.subset_append_left _ _)
        rw [kind, current_of_ahead hmore] at hk
        exact absurd hk (hne t (by simp))
  · cases more with
    | nil => exact .inr ⟨hend (by simp), hcurrent hmore.symm⟩
    | cons t more =>
        rw [current_of_ahead hmore]
        exact .inl (by simp)

theorem Takes.location_fault (h : c.Takes limit segment c') {d : Diagnostic GrammarFault}
    (hd : segment.step.fault? = some d) : d.location ∈ segment.tokens.map (·.location) ∨
      c'.kind = .endOfInput ∧ d.location = c'.location := by
  cases h with
  | separator _ => contradiction
  | statement _ _ _ => contradiction
  | @fault ts f c' hread hts =>
      obtain rfl := Option.some.inj hd
      have hk : c.kind ≠ .char ';' := by
        intro hk
        simp [readItem_separator hk] at hread
      have hstays := stays_readItem limit c hk
      rw [hread] at hstays
      obtain ⟨us, hp, hs⟩ := hstays
      obtain hmem | ⟨hend, hcurrent⟩ := hts.current_of_passes hp hs
      · exact .inl (List.mem_map_of_mem hmem)
      · exact .inr ⟨hend, congrArg Token.location hcurrent.symm⟩

/-- The faults are located at tokens of the run, in their order, and the last one may be located at
the end. -/
theorem Cut.faults_sublist (h : c.Cut limit segments c') :
    ((segments.filterMap (·.step.fault?)).map (·.location)).Sublist
      ((segments.flatMap (·.tokens)).map (·.location) ++ [c'.location]) := by
  induction h with
  | nil c => exact List.nil_sublist _
  | @cons c c₁ c' segment segments ht hcut ih =>
      rw [List.flatMap_cons, List.map_append, List.append_assoc]
      cases hstep : segment.step.fault? with
      | none =>
          rw [List.filterMap_cons_none (f := fun s : Segment => s.step.fault?) hstep]
          exact ih.trans (List.sublist_append_right _ _)
      | some d =>
          rw [List.filterMap_cons_some (f := fun s : Segment => s.step.fault?) hstep, List.map_cons]
          obtain hmem | ⟨hend, hl⟩ := ht.location_fault hstep
          · exact (List.singleton_sublist.2 hmem).append ih
          -- behind the end of the input there is no other segment
          · cases hcut with
            | nil =>
                rw [hl]
                exact List.sublist_append_right _ _
            | cons ht' _ => exact absurd hend ht'.ne_end

end Cursor

/-! ### Runs over a text -/

/-- Nodes are in order if their own expressions are, and each is behind the expressions of the
earlier ones. -/
theorem Node.pairwise_expressions {nodes : List Node}
    (hin : ∀ n ∈ nodes, n.expressions.Pairwise fun d e => d.location.Before e.location)
    (hle : ∀ n ∈ nodes, ∀ e ∈ n.expressions, n.location = e.location ∨ n.location.Before e.location)
    (hapart : nodes.Pairwise fun m n => ∀ e ∈ m.expressions, e.location.Before n.location) :
    (nodes.flatMap Node.expressions).Pairwise fun d e => d.location.Before e.location := by
  refine List.pairwise_flatMap.2 ⟨hin, hapart.imp_of_mem fun {m n} _ hn hbefore d hd e he => ?_⟩
  rcases hle n hn e he with heq | hlt
  · exact heq ▸ hbefore d hd
  · exact (hbefore d hd).trans hlt

/-- Where the tokens of segments are in order, each node is behind the expressions of the earlier
ones. -/
theorem Segment.pairwise_nodes {segments : List Segment}
    (hread : ∀ segment ∈ segments, ∀ n ∈ segment.step.node?, n.ReadFrom segment.tokens)
    (ho : (segments.flatMap (·.tokens)).Pairwise fun t u => t.location.Before u.location) :
    (segments.filterMap (·.step.node?)).Pairwise fun m n =>
      ∀ e ∈ m.expressions, e.location.Before n.location := by
  obtain ⟨-, hacross⟩ := List.pairwise_flatMap.1 ho
  refine List.pairwise_filterMap.2 (hacross.imp_of_mem fun {a b} ha hb hab m hm n hn e he => ?_)
  obtain ⟨t, ht, hl, -⟩ := (hread b hb n hn).exists_mem
  have hbefore := hab e.token ((hread a ha m hm).token_mem e he) t ht
  rwa [e.location_token, hl] at hbefore

namespace Token.Stream

variable {name : String} {text : List Char} {st : Stream} {segments : List Segment}

theorem pairwise_faults (h : ofText name text = .ok st)
    (hrun : (Cursor.start st).Segmented (some nestingLimit) segments st.run)
    (hprogram : segments.flatMap (·.tokens) = st.body) :
    st.run.faults.Pairwise fun d e => d.location.Before e.location := by
  have horder := (pairwise_ofText h).map (fun t : Token => t.location) fun _ _ h => h
  have hfaults := hrun.cut.faults_sublist
  rw [hprogram, location_final h hrun] at hfaults
  rw [toList, List.map_append] at horder
  rw [Run.faults_eq, hrun.steps, List.filterMap_map]
  exact List.pairwise_map.1 (horder.sublist hfaults)

end Token.Stream

/-- A lexeme can start at this place of the text, which goes on in this way. -/
def Location.Opens (name : String) (text : List Char) (l : Location) (p : List Char → Prop) :
    Prop :=
  ∃ before rest, text = before ++ rest ∧ l = .behind name before ∧ Boundary before rest ∧ p rest

/-- The longest lexeme that the text starts with is the operator, the name or the numeral of the
expression. -/
def Expr.Leads : Expr → List Char → Prop
  | number _ value, rest => Binary64.ofNumeral? (rest.takeWhile isNumeralChar) = some value
  | reference _ name, rest => rest.takeWhile isWordChar = name.toList
  | binary _ op _ _, rest => rest.head? = some op
  | call _ callee _, rest => rest.takeWhile isWordChar = callee.toList

namespace Token.StandsIn

variable {name : String} {text : List Char} {t : Token}

theorem opens_name {x : String} (h : t.StandsIn name text) (hk : t.kind = .identifier x) :
    t.location.Opens name text (·.takeWhile isWordChar = x.toList) := by
  obtain ⟨before, lexeme, rest, htext, hl, hs, hb, hstops⟩ := h
  refine ⟨before, lexeme ++ rest, htext, hl, hb, ?_⟩
  rw [hk] at hs
  cases hs with
  | name h =>
      have hstop := hstops.1 h.1
      rw [takeWhile_append_of_stop h.1.2 hstop, String.toList_ofList]

theorem opens_number {value : Binary64} (h : t.StandsIn name text) (hk : t.kind = .number value) :
    t.location.Opens name text
      (fun rest => Binary64.ofNumeral? (rest.takeWhile isNumeralChar) = some value) := by
  obtain ⟨before, lexeme, rest, htext, hl, hs, hb, hstops⟩ := h
  refine ⟨before, lexeme ++ rest, htext, hl, hb, ?_⟩
  rw [hk] at hs
  cases hs with
  | number hn hv =>
      have hstop := hstops.2 hn
      rwa [takeWhile_append_of_stop hn.2 hstop]

theorem opens_char {c : Char} (h : t.StandsIn name text) (hk : t.kind = .char c) :
    t.location.Opens name text (·.head? = some c) := by
  obtain ⟨before, lexeme, rest, htext, hl, hs, hb, -⟩ := h
  rw [hk] at hs
  cases hs with
  | mark _ => exact ⟨before, c :: rest, htext, hl, hb, rfl⟩

theorem opens_expression {e : Expr} (h : e.token.StandsIn name text) :
    e.location.Opens name text e.Leads := by
  cases e with
  | number _ _ => exact h.opens_number rfl
  | reference _ _ => exact h.opens_name rfl
  | binary _ _ _ _ => exact h.opens_char rfl
  | call _ _ _ => exact h.opens_name rfl

end Token.StandsIn

namespace Run

variable {name : String} {text : List Char} {run : Run}

/-- The trees of a text are located where they are written. All expressions, listed in the order of
the text, are located one behind the other, and so are the faults. A node is located in front of its
expressions or with the first of them, and behind all expressions of earlier nodes. -/
theorem located_ofText (h : ofText name text = .ok run) :
    (∀ n ∈ run.nodes, (∀ e ∈ n.expressions, e.location.Opens name text e.Leads) ∧
      (n.prototype.isAnonymous = false →
        n.location.Opens name text (·.takeWhile isWordChar = n.prototype.name.toList))) ∧
    (run.nodes.flatMap Node.expressions).Pairwise (fun d e => d.location.Before e.location) ∧
    ((run.nodes.flatMap Node.expressions).map Expr.location).Nodup ∧
    (∀ n ∈ run.nodes, ∀ e ∈ n.expressions,
      n.location = e.location ∨ n.location.Before e.location) ∧
    run.nodes.Pairwise (fun m n => ∀ e ∈ m.expressions, e.location.Before n.location) ∧
    run.faults.Pairwise (fun d e => d.location.Before e.location) := by
  obtain ⟨st, hst, rfl⟩ := ofText_ok_iff.1 h
  obtain ⟨segments, hrun, hprogram, hnodes, hd⟩ := Token.Stream.exists_deliveries st
  rw [Token.Stream.program_eq_body hst] at hprogram
  have hread : ∀ segment ∈ segments, ∀ n ∈ segment.step.node?, n.ReadFrom segment.tokens := by
    intro segment hmem n hn
    obtain ⟨statement, rfl, hs⟩ := hd segment hmem n hn
    exact hs.readFrom
  have hsegment : ∀ n ∈ st.run.nodes, ∃ segment ∈ segments, n.ReadFrom segment.tokens := by
    intro n hn
    rw [hnodes] at hn
    obtain ⟨segment, hmem, hn⟩ := List.mem_filterMap.1 hn
    exact ⟨segment, hmem, hread segment hmem n hn⟩
  have hstands := Token.Stream.standsIn_of_ofText hst
  obtain ⟨hbody, -⟩ := List.pairwise_append.1 (Token.Stream.pairwise_ofText hst)
  rw [← hprogram] at hbody hstands
  obtain ⟨hwithin, -⟩ := List.pairwise_flatMap.1 hbody
  have hle : ∀ n ∈ st.run.nodes, ∀ e ∈ n.expressions,
      n.location = e.location ∨ n.location.Before e.location := by
    intro n hn
    obtain ⟨segment, hmem, hn⟩ := hsegment n hn
    exact hn.location_le (hwithin segment hmem)
  have hapart : st.run.nodes.Pairwise fun m n => ∀ e ∈ m.expressions,
      e.location.Before n.location := hnodes ▸ Segment.pairwise_nodes hread hbody
  have hin : ∀ n ∈ st.run.nodes, n.expressions.Pairwise fun d e =>
      d.location.Before e.location := by
    intro n hn
    obtain ⟨segment, hmem, hn⟩ := hsegment n hn
    exact hn.pairwise (hwithin segment hmem)
  have hexpressions := Node.pairwise_expressions hin hle hapart
  refine ⟨fun n hn => ?_, hexpressions, ?_, hle, hapart, ?_⟩
  · obtain ⟨segment, hmem, hn⟩ := hsegment n hn
    refine ⟨fun e he => ?_, fun hanonymous => ?_⟩
    · exact (hstands _ (List.mem_flatMap_of_mem hmem (hn.token_mem e he))).opens_expression
    · obtain ⟨t, ht, hl, hk⟩ := hn.exists_mem
      rw [← hl]
      exact (hstands t (List.mem_flatMap_of_mem hmem ht)).opens_name (hk hanonymous)
  · exact List.pairwise_map.2 (hexpressions.imp fun h => h.ne)
  · exact Token.Stream.pairwise_faults hst hrun hprogram

/-- A definition and, on the next line, a stray parenthesis and a comparison. -/
theorem located_ofText_twoLines : ∃ run, ofText "" "def f(x) x+y\n); x < y".toList = .ok run ∧
    (run.nodes.flatMap Node.expressions).map Expr.location =
      [⟨"", 1, 10⟩, ⟨"", 1, 11⟩, ⟨"", 1, 12⟩, ⟨"", 2, 4⟩, ⟨"", 2, 6⟩, ⟨"", 2, 8⟩] ∧
    run.faults.map (·.location) = [⟨"", 2, 1⟩] ∧
    (run.nodes.flatMap Node.expressions).Pairwise fun d e => d.location.Before e.location := by
  have h : (ofText "" "def f(x) x+y\n); x < y".toList).map (fun run =>
      ((run.nodes.flatMap Node.expressions).map Expr.location, run.faults.map (·.location))) =
      .ok ([⟨"", 1, 10⟩, ⟨"", 1, 11⟩, ⟨"", 1, 12⟩, ⟨"", 2, 4⟩, ⟨"", 2, 6⟩, ⟨"", 2, 8⟩],
        [⟨"", 2, 1⟩]) := by decide +kernel
  cases hrun : ofText "" "def f(x) x+y\n); x < y".toList with
  | error d =>
      rw [hrun] at h
      contradiction
  | ok run =>
      rw [hrun] at h
      obtain ⟨hexpressions, hfaults⟩ := Prod.mk.inj (Except.ok.inj h)
      obtain ⟨-, hpairwise, -⟩ := located_ofText hrun
      exact ⟨run, rfl, hexpressions, hfaults, hpairwise⟩

end Run

end Kaleidoscope
