import Kaleidoscope.Proofs.Entries
import Kaleidoscope.Proofs.Limits
import Kaleidoscope.Proofs.Places

/-!
The limit on nested expressions cuts a reading off at the first entry that is one level too deep,
and does nothing else. `Outcome.cut` makes the outcome under a limit from the outcome and the
entries without one; that each reader does this (`readsCut`) is shown for all of them together. What
carries the proof is that an expression around takes one level of the room away and adds one to the
level of every entry inside of it.
-/

namespace Kaleidoscope

/-- The place as it is outside of all expressions but so many. -/
def Cursor.atDepth (c : Cursor) (depth : Nat) : Cursor :=
  { c with depth }

@[simp] theorem Cursor.atDepth_atDepth (c : Cursor) (m n : Nat) :
    (c.atDepth m).atDepth n = c.atDepth n := rfl

@[simp] theorem Token.Stream.atDepth_cursorAt (s : Token.Stream) (i : Nat) :
    (s.cursorAt i).atDepth 0 = s.cursorAt i := rfl

namespace Outcome

variable {α β : Type} {room depth : Nat} {entries : List Entry} {o o' : Outcome α}

/-- The outcome if there is room for so many levels. -/
def cut (room depth : Nat) (entries : List Entry) (o : Outcome α) : Outcome α :=
  match Entry.firstAt (room + 1) entries with
  | none => o
  | some e => .error ⟨.nestingTooDeep, e.cursor.atDepth depth⟩

/-- The first reading is the second one with room for so many levels. Nothing is too deep for the
second, and at each of its entries the depth counts the expressions around. -/
structure Cuts (room depth : Nat) (entries : List Entry) (o o' : Outcome α) : Prop where
  eq : o = o'.cut room depth entries
  unlimited : ¬o'.TooDeep
  counted : ∀ e ∈ entries, e.cursor.depth + 1 = depth + e.level

namespace Cuts

theorem refl (h : ¬o.TooDeep) : Cuts room depth [] o o :=
  ⟨rfl, h, by simp⟩

theorem ok (a : α × Cursor) : Cuts room depth [] (.ok a) (.ok a) :=
  refl (not_tooDeep_ok a)

theorem error {f : Failure} (h : f.cause ≠ .nestingTooDeep) :
    Cuts room depth [] (.error f : Outcome α) (.error f) :=
  refl (by simpa using h)

theorem map (h : Cuts room depth entries o o') (g : α → β) :
    Cuts room depth entries (o.map g) (o'.map g) := by
  obtain ⟨rfl, h, hcounted⟩ := h
  refine ⟨?_, by simpa using h, hcounted⟩
  unfold cut
  split <;> rfl

theorem andThen {k k' : α → Cursor → Outcome β} {e : α → Cursor → List Entry}
    (h : Cuts room depth entries o o')
    (hk : ∀ a c, o' = .ok (a, c) → Cuts room depth (e a c) (k a c) (k' a c)) :
    Cuts room depth (entries ++ o'.follow e) (o.andThen k) (o'.andThen k') := by
  obtain ⟨rfl, h, hcounted⟩ := h
  cases o' with
  | error f =>
      rw [follow_error, List.append_nil]
      refine ⟨?_, by simpa using h, hcounted⟩
      unfold cut
      split <;> rfl
  | ok a =>
      obtain ⟨hk, hdeep, hcounted'⟩ := hk a.1 a.2 rfl
      refine ⟨?_, hdeep, List.forall_mem_append.2 ⟨hcounted, hcounted'⟩⟩
      simp only [cut, Entry.firstAt_append, follow]
      cases Entry.firstAt (room + 1) entries with
      | some e => rfl
      | none => exact hk

/-- Behind the reading nothing is entered any more. -/
theorem andThen_none {k k' : α → Cursor → Outcome β} (h : Cuts room depth entries o o')
    (hk : ∀ a c, o' = .ok (a, c) → Cuts room depth [] (k a c) (k' a c)) :
    Cuts room depth entries (o.andThen k) (o'.andThen k') := by
  have hfollow : o'.follow (fun _ _ => []) = [] := by
    cases o' <;> rfl
  have := h.andThen (e := fun _ _ => []) hk
  rwa [hfollow, List.append_nil] at this

/-- The entries of an expression are counted from the place where it starts. -/
theorem counted_enclose {c : Cursor} (h : Cuts room (c.depth + 1) entries o o') :
    ∀ e ∈ Entry.enclose c entries, e.cursor.depth + 1 = c.depth + e.level := by
  refine List.forall_mem_cons.2 ⟨rfl, List.forall_mem_map.2 fun e he => ?_⟩
  have hcounted := h.counted e he
  show e.cursor.depth + 1 = c.depth + (e.level + 1)
  omega

/-- Inside of one expression more there is room for one level less. -/
theorem enclose {c : Cursor} (h : Cuts room (c.depth + 1) entries o o') :
    Cuts (room + 1) c.depth (Entry.enclose c entries) o.ascend o'.ascend := by
  refine ⟨?_, by simpa using h.unlimited, h.counted_enclose⟩
  obtain ⟨rfl, -, -⟩ := h
  simp only [cut, Entry.firstAt_enclose]
  cases Entry.firstAt (room + 1) entries <;> rfl

/-- There is no room for an expression at all. -/
theorem full {c : Cursor} {o : Outcome α} (h : Cuts room (c.depth + 1) entries o o') :
    Cuts 0 c.depth (Entry.enclose c entries) (.error ⟨.nestingTooDeep, c⟩) o'.ascend :=
  ⟨rfl, by simpa using h.unlimited, h.counted_enclose⟩

end Cuts

theorem Stays.depth_eq {c c' : Cursor} {a : α} (h : o.Stays c) (ho : o = .ok (a, c')) :
    c'.depth = c.depth := by
  subst ho
  exact (Cursor.ReachesWithin.reaches h).depth_eq

end Outcome

namespace Cursor

/-- What each reader of expressions does from a place where so many levels are left. -/
structure ReadsCut (c : Cursor) (room : Nat) : Prop where
  primary : (c.readPrimary (some (c.depth + room))).Cuts room c.depth c.primaryEntries
    (c.readPrimary none)
  chain : ∀ p left, (c.readChain (some (c.depth + room)) p left).Cuts room c.depth
    (c.chainEntries p) (c.readChain none p left)
  expression : (c.readExpression (some (c.depth + room))).Cuts room c.depth c.expressionEntries
    (c.readExpression none)
  argumentList : (c.readArgumentList (some (c.depth + room))).Cuts room c.depth
    c.argumentListEntries (c.readArgumentList none)
  arguments : (c.readArguments (some (c.depth + room))).Cuts room c.depth c.argumentsEntries
    (c.readArguments none)

variable {limit : Option Nat} {room depth : Nat} {c : Cursor}

theorem cuts_afterArgument {e : Expr}
    (h : (c.next.readArgumentList limit).Cuts room depth c.next.argumentListEntries
      (c.next.readArgumentList none)) :
    (c.afterElement .argumentEndExpected (readArgumentList limit) e).Cuts room depth
      c.afterArgumentEntries (c.afterElement .argumentEndExpected (readArgumentList none) e) := by
  by_cases hc : c.kind = .char ','
  · rw [afterElement_comma hc, afterElement_comma hc, afterArgumentEntries_comma hc]
    exact h.map _
  · rw [afterArgumentEntries_other hc]
    by_cases hk : c.kind = .char ')'
    · rw [afterElement_close hk, afterElement_close hk]
      exact .ok _
    · rw [afterElement_other hk hc, afterElement_other hk hc]
      exact .error (by simp)

theorem cuts_afterNested (e : Expr) (c : Cursor) :
    (c.afterNested e).Cuts room depth [] (c.afterNested e) := by
  by_cases hk : c.kind = .char ')'
  · rw [afterNested_close hk]
    exact .ok _
  · rw [afterNested_other hk]
    exact .error (by simp)

theorem cuts_readPrimary_of
    (ih : ∀ d : Cursor, d.remaining < c.remaining → ReadsCut d room) :
    (c.readPrimary (some (c.depth + room))).Cuts room c.depth c.primaryEntries
      (c.readPrimary none) := by
  by_cases hs : c.kind.StartsExpression
  · have hlt : c.next.remaining < c.remaining :=
      remaining_next_lt (by rintro he; rw [he] at hs; exact hs)
    have hd := depth_next c
    cases hk : c.kind with
    | number value =>
        rw [readPrimary_number hk, readPrimary_number hk, primaryEntries_other (by simp [hk])
          (by simp [hk])]
        exact .ok _
    | identifier name =>
        rw [readPrimary_name hk, readPrimary_name hk]
        by_cases hk' : c.next.kind = .char '('
        · have hle := remaining_next_le c.next
          rw [afterName_call hk', afterName_call hk', primaryEntries_call hk hk', ← hd,
            ← depth_next c.next]
          exact (ih _ (by omega)).arguments.map _
        · rw [afterName_reference hk', afterName_reference hk', primaryEntries_reference hk hk']
          exact .ok _
    | char x =>
        obtain rfl : x = '(' := by rwa [hk] at hs
        rw [readPrimary_nested hk, readPrimary_nested hk, primaryEntries_nested hk, ← hd]
        exact (ih _ hlt).expression.andThen_none fun e c₁ _ => cuts_afterNested e c₁
    | _ => simp [hk, Token.Kind.StartsExpression] at hs
  · have hname (name : String) : c.kind ≠ .identifier name := by
      rintro hk
      exact hs (by rw [hk]; trivial)
    have hopen : c.kind ≠ .char '(' := by
      rintro hk
      exact hs (by rw [hk]; rfl)
    rw [readPrimary_other hs, readPrimary_other hs, primaryEntries_other hopen hname]
    exact .error (by simp)

theorem cuts_readChain_of {p : Nat} {left : Expr}
    (ih : ∀ d : Cursor, d.remaining < c.remaining → ReadsCut d room) :
    (c.readChain (some (c.depth + room)) p left).Cuts room c.depth (c.chainEntries p)
      (c.readChain none p left) := by
  by_cases hs : c.kind.StopsAt p
  · rw [readChain_of_stopsAt hs, readChain_of_stopsAt hs, chainEntries_of_stopsAt hs]
    exact .ok _
  · obtain ⟨⟨op, q⟩, hk, hp⟩ : ∃ o, c.kind.operator? = some o ∧ p ≤ o.2 := by
      simpa [Token.Kind.StopsAt] using hs
    have hlt := remaining_next_lt (ne_end_of_operator hk)
    rw [readChain_of_operator hk hp, readChain_of_operator hk hp, chainEntries_of_operator hk hp,
      ← depth_next c]
    refine (ih _ hlt).primary.andThen fun right c₁ hright => ?_
    have hlt₁ := readPrimary_lt hright
    rw [← (stays_readPrimary none c.next).depth_eq hright]
    refine ((ih c₁ (by omega)).chain _ _).andThen fun right' c₂ hright' => ?_
    have hle₂ := readChain_le hright'
    rw [← (stays_readChain none c₁ _ _).depth_eq hright']
    exact (ih c₂ (by omega)).chain _ _

theorem cuts_readExpression_of
    (hp : ∀ room, (c.descend.readPrimary (some (c.descend.depth + room))).Cuts room
      c.descend.depth c.descend.primaryEntries (c.descend.readPrimary none))
    (ih : ∀ d : Cursor, d.remaining < c.remaining → ∀ room, ReadsCut d room) :
    (c.readExpression (some (c.depth + room))).Cuts room c.depth c.expressionEntries
      (c.readExpression none) := by
  have inner (room : Nat) :
      ((c.descend.readPrimary (some (c.depth + (room + 1)))).andThen fun left c₁ =>
        c₁.readChain (some (c.depth + (room + 1))) 0 left).Cuts room c.descend.depth
        (c.descend.primaryEntries ++
          (c.descend.readPrimary none).follow fun _ c₁ => c₁.chainEntries 0)
        ((c.descend.readPrimary none).andThen fun left c₁ => c₁.readChain none 0 left) := by
    have hlimit : c.descend.depth + room = c.depth + (room + 1) := Nat.add_right_comm _ _ _
    rw [← hlimit]
    refine (hp room).andThen fun left c₁ hleft => ?_
    have hlt : c₁.remaining < c.descend.remaining := readPrimary_lt hleft
    rw [← (stays_readPrimary none c.descend).depth_eq hleft]
    exact (ih c₁ hlt room).chain 0 left
  have hnone : c.full none = false := rfl
  rw [readExpression_room hnone, expressionEntries_eq]
  cases room with
  | zero =>
      have hfull : c.full (some (c.depth + 0)) = true := by simp [full]
      rw [readExpression_full hfull]
      exact (inner 0).full
  | succ room =>
      have hroom : c.full (some (c.depth + (room + 1))) = false := by simp [full]
      rw [readExpression_room hroom]
      exact (inner room).enclose

theorem cuts_readArgumentList_of
    (he : (c.readExpression (some (c.depth + room))).Cuts room c.depth c.expressionEntries
      (c.readExpression none))
    (ih : ∀ d : Cursor, d.remaining < c.remaining → ReadsCut d room) :
    (c.readArgumentList (some (c.depth + room))).Cuts room c.depth c.argumentListEntries
      (c.readArgumentList none) := by
  rw [readArgumentList_andThen, readArgumentList_andThen, argumentListEntries_eq]
  refine he.andThen fun e c₁ hread => cuts_afterArgument ?_
  have hlt := readExpression_lt hread
  have hle := remaining_next_le c₁
  rw [← (stays_readExpression none c).depth_eq hread, ← depth_next c₁]
  exact (ih _ (by omega)).argumentList

theorem cuts_readArguments_of
    (hl : (c.readArgumentList (some (c.depth + room))).Cuts room c.depth c.argumentListEntries
      (c.readArgumentList none)) :
    (c.readArguments (some (c.depth + room))).Cuts room c.depth c.argumentsEntries
      (c.readArguments none) := by
  by_cases hk : c.kind = .char ')'
  · rw [readArguments_none hk, readArguments_none hk, argumentsEntries_none hk]
    exact .ok _
  · rwa [readArguments_some hk, readArguments_some hk, argumentsEntries_some hk]

theorem readsCut (c : Cursor) (room : Nat) : ReadsCut c room := by
  induction c using ahead_induction generalizing room with
  | step c ih =>
      have smaller (d : Cursor) (hlt : d.remaining < c.remaining) (room : Nat) : ReadsCut d room :=
        ih d hlt room
      have smallerHere (d : Cursor) (hlt : d.remaining < c.remaining) : ReadsCut d room :=
        ih d hlt room
      -- one level deeper there are as many tokens ahead
      have inner (room : Nat) := cuts_readPrimary_of (c := c.descend) fun d hlt => ih d hlt room
      have expression : (c.readExpression (some (c.depth + room))).Cuts room c.depth
          c.expressionEntries (c.readExpression none) := cuts_readExpression_of inner smaller
      have list := cuts_readArgumentList_of expression smallerHere
      exact
        { primary := cuts_readPrimary_of smallerHere
          chain := fun _ _ => cuts_readChain_of smallerHere
          expression := expression
          argumentList := list
          arguments := cuts_readArguments_of list }

/-! ### Opening parentheses -/

/-- So many opening parentheses lead as many levels down. -/
theorem firstAt_of_passes_openings {c c' : Cursor} {used : List Token}
    (h : c.Passes used c') (hused : ∀ t ∈ used, t.kind = .char '(') :
    Entry.firstAt (used.length + 1) c.expressionEntries =
      some ⟨used.length + 1, c'.atDepth (c.depth + used.length)⟩ := by
  induction used generalizing c c' with
  | nil =>
      obtain rfl := passes_nil.1 h
      rw [expressionEntries_eq]
      rfl
  | cons t used ih =>
      obtain ⟨ht, -, hp⟩ := passes_cons.1 (passes_descend.2 h)
      obtain ⟨hopen, hused⟩ := List.forall_mem_cons.1 hused
      have hkind : c.descend.kind = .char '(' := by rw [kind, ht, hopen]
      have hdepth : c.descend.next.depth + used.length = c.depth + (used.length + 1) := by
        rw [depth_next]
        exact Nat.add_right_comm c.depth 1 used.length
      rw [expressionEntries_eq, List.length_cons, Entry.firstAt_enclose, Entry.firstAt_append,
        primaryEntries_nested hkind, ih hp hused, hdepth]
      rfl

/-! ### Statements -/

theorem not_tooDeep_readParameters (c : Cursor) : ¬c.readParameters.TooDeep := by
  fun_induction readParameters c with
  | case2 c name hk _ hk' ih => simpa using ih
  | _ => simp

theorem not_tooDeep_readPrototype (c : Cursor) : ¬c.readPrototype.TooDeep := by
  unfold readPrototype
  split
  · split
    · split
      · simp
      · simpa using not_tooDeep_readParameters _
    · simp
  · simp

theorem not_tooDeep_readExtern (c : Cursor) : ¬c.readExtern.TooDeep := by
  unfold readExtern
  split
  · exact not_tooDeep_readPrototype _
  · simp

theorem cuts_readDefinition (c : Cursor) (room : Nat) :
    (c.readDefinition (some (c.depth + room))).Cuts room c.depth c.definitionEntries
      (c.readDefinition none) := by
  by_cases hk : c.kind = .defWord
  · have hentries : c.definitionEntries =
        [] ++ c.next.readPrototype.follow fun _ c => c.expressionEntries := by
      simp only [definitionEntries, hk, List.nil_append]
    rw [readDefinition_word hk, readDefinition_word hk, hentries, ← depth_next c]
    refine (Outcome.Cuts.refl (not_tooDeep_readPrototype _)).andThen fun p c₁ hread => ?_
    rw [← (stays_readPrototype c.next).depth_eq hread]
    exact (readsCut c₁ room).expression.map _
  · have hentries : c.definitionEntries = [] := by
      rw [definitionEntries]
      split <;> simp_all
    rw [readDefinition_other hk, readDefinition_other hk, hentries]
    exact .error (by simp)

theorem cuts_readBare (c : Cursor) (room : Nat) :
    (c.readBare (some (c.depth + room))).Cuts room c.depth c.expressionEntries
      (c.readBare none) :=
  (readsCut c room).expression.map _

theorem cuts_readItem (c : Cursor) (room : Nat) :
    (c.readItem (some (c.depth + room))).Cuts room c.depth c.itemEntries (c.readItem none) := by
  have bare := (cuts_readBare c room).map fun f => Item.statement (.expression f)
  cases hk : c.kind with
  | endOfInput =>
      simp only [readItem, itemEntries, hk]
      exact .ok _
  | defWord =>
      simp only [readItem, itemEntries, hk]
      exact (cuts_readDefinition c room).map _
  | externWord =>
      simp only [readItem, itemEntries, hk]
      exact (Outcome.Cuts.refl (not_tooDeep_readExtern c)).map _
  | char x =>
      by_cases hx : x = ';'
      · subst hx
        simp only [readItem, itemEntries, hk]
        exact .ok _
      · simpa [readItem, itemEntries, hk, hx] using bare
  | identifier name => simpa only [readItem, itemEntries, hk] using bare
  | number value => simpa only [readItem, itemEntries, hk] using bare

end Cursor

/-! ### The limit -/

/-- What a limit of so many levels makes of a reading that has these entries without a limit. -/
structure Outcome.CutOff {α : Type} (levels : Nat) (entries : List Entry)
    (limited unlimited : Outcome α) : Prop where
  counted : ∀ e ∈ entries, e.level = e.cursor.depth + 1
  same : (∀ e ∈ entries, e.level ≠ levels + 1) → limited = unlimited
  deep : (∃ e ∈ entries, e.level = levels + 1) →
    ∃ first f, Entry.firstAt (levels + 1) entries = some first ∧ limited = .error f ∧
      f.diagnostic.text = "expression nested too deeply" ∧
      f.diagnostic.location = first.cursor.location ∧ f.cursor = first.cursor.atDepth 0
  only : ∀ f, limited = .error f → f.diagnostic.text = "expression nested too deeply" →
    ∃ e ∈ entries, e.level = levels + 1

theorem GrammarFault.eq_nestingTooDeep {cause : GrammarFault}
    (h : message cause = "expression nested too deeply") : cause = .nestingTooDeep := by
  cases cause with
  | nestingTooDeep => rfl
  | _ => simp [message] at h

theorem Outcome.Cuts.cutOff {α : Type} {levels : Nat} {entries : List Entry} {o o' : Outcome α}
    (h : o.Cuts levels 0 entries o') : o.CutOff levels entries o' := by
  obtain ⟨rfl, hdeep, hcounted⟩ := h
  have same (h : ∀ e ∈ entries, e.level ≠ levels + 1) : o'.cut levels 0 entries = o' := by
    rw [cut, Entry.firstAt_eq_none_iff.2 h]
  refine ⟨fun e he => ?_, same, ?_, ?_⟩
  · have := hcounted e he
    omega
  · rintro ⟨e, he, hlevel⟩
    cases hfirst : Entry.firstAt (levels + 1) entries with
    | none => exact absurd hlevel (Entry.firstAt_eq_none_iff.1 hfirst e he)
    | some first =>
        refine ⟨first, ⟨.nestingTooDeep, first.cursor.atDepth 0⟩, rfl, ?_, rfl, rfl, rfl⟩
        rw [cut, hfirst]
  · intro f hf htext
    cases hfirst : Entry.firstAt (levels + 1) entries with
    | none =>
        rw [same (Entry.firstAt_eq_none_iff.1 hfirst)] at hf
        exact absurd ⟨f, hf, GrammarFault.eq_nestingTooDeep htext⟩ hdeep
    | some e => exact ⟨e, Entry.firstAt_mem hfirst, Entry.firstAt_level hfirst⟩

namespace Token.Stream

/-- The nesting limit changes nothing but what goes too deep. From any place each reader does what
it does without a limit if that enters no expression at the level behind the last one allowed.
Otherwise it fails at the first such expression. A call without arguments enters none at all. -/
theorem readings_cutOff (s : Stream) (i : Nat) :
    ((s.cursorAt i).readExpression (some nestingLimit)).CutOff nestingLimit
      (s.cursorAt i).expressionEntries ((s.cursorAt i).readExpression none) ∧
    ((s.cursorAt i).readDefinition (some nestingLimit)).CutOff nestingLimit
      (s.cursorAt i).definitionEntries ((s.cursorAt i).readDefinition none) ∧
    ((s.cursorAt i).readBare (some nestingLimit)).CutOff nestingLimit
      (s.cursorAt i).expressionEntries ((s.cursorAt i).readBare none) ∧
    ((s.cursorAt i).readItem (some nestingLimit)).CutOff nestingLimit
      (s.cursorAt i).itemEntries ((s.cursorAt i).readItem none) ∧
    ∀ (c : Cursor) (name : String), c.kind = .identifier name → c.next.kind = .char '(' →
      c.next.next.kind = .char ')' → c.primaryEntries = [] ∧
      c.readPrimary (some nestingLimit) = .ok (.call c.location name [], c.next.next.next) := by
  refine ⟨?_, ?_, ?_, ?_, ?_⟩
  · exact (Cursor.readsCut (s.cursorAt i) nestingLimit).expression.cutOff
  · exact (Cursor.cuts_readDefinition (s.cursorAt i) nestingLimit).cutOff
  · exact (Cursor.cuts_readBare (s.cursorAt i) nestingLimit).cutOff
  · exact (Cursor.cuts_readItem (s.cursorAt i) nestingLimit).cutOff
  · intro c name hname hopen hclose
    refine ⟨?_, ?_⟩
    · rw [Cursor.primaryEntries_call hname hopen, Cursor.argumentsEntries_none hclose]
    · rw [Cursor.readPrimary_name hname, Cursor.afterName_call hopen,
        Cursor.readArguments_none hclose]
      rfl

/-- The tokens of so many opening parentheses. -/
def openings (n : Nat) : Stream :=
  ofKinds (List.replicate n (.char '('))

theorem firstAt_openings (n : Nat) :
    Entry.firstAt (n + 1) ((openings n).cursorAt 0).expressionEntries =
      some ⟨n + 1, ((openings n).cursorAt n).atDepth n⟩ := by
  have hlength : (openings n).body.length = n := by simp [openings, ofKinds]
  have hkind : ∀ t ∈ (openings n).body, t.kind = .char '(' := by
    intro t ht
    obtain ⟨⟨k, i⟩, hk, rfl⟩ := List.mem_map.1 ht
    exact List.eq_of_mem_replicate (List.fst_mem_of_mem_zipIdx hk)
  have hpasses : (Cursor.start (openings n)).Passes _ _ :=
    passes_start fun t ht => by simp [hkind t ht]
  have hfirst := Cursor.firstAt_of_passes_openings hpasses hkind
  rw [hlength] at hfirst
  rw [cursorAt_zero, hfirst, Cursor.start, Nat.zero_add]

/-- As many opening parentheses as there are levels lead to one level too many behind them. -/
theorem readings_cutOff_openings :
    (∃ e ∈ ((openings nestingLimit).cursorAt 0).expressionEntries, e.level = nestingLimit + 1) ∧
      ∃ f, ((openings nestingLimit).cursorAt 0).readExpression (some nestingLimit) = .error f ∧
        f.diagnostic.text = "expression nested too deeply" ∧
        f.cursor = (openings nestingLimit).cursorAt nestingLimit := by
  have hfirst := firstAt_openings nestingLimit
  have hdeep : ∃ e ∈ ((openings nestingLimit).cursorAt 0).expressionEntries,
      e.level = nestingLimit + 1 :=
    ⟨_, Entry.firstAt_mem hfirst, Entry.firstAt_level hfirst⟩
  obtain ⟨⟨-, -, deep, -⟩, -⟩ := readings_cutOff (openings nestingLimit) 0
  obtain ⟨first, f, hfirst', hf, htext, -, hcursor⟩ := deep hdeep
  rw [hfirst] at hfirst'
  obtain rfl := Option.some.inj hfirst'
  exact ⟨hdeep, f, hf, htext, by rwa [Cursor.atDepth_atDepth, atDepth_cursorAt] at hcursor⟩

/-- The expression in parentheses is entered at the second level. -/
example : ((ofKinds [.char '(', .identifier "x", .char ')']).cursorAt 0).expressionEntries.map
    (fun e => (e.level, e.cursor.index)) = [(1, 0), (2, 1)] := by decide +kernel

end Token.Stream

end Kaleidoscope
