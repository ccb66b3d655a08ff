import Kaleidoscope.Proofs.Boundaries
import Kaleidoscope.Proofs.Finiteness

/-!
Where a text has no tokens. What is in front of a boundary is read by itself (`scan_append`), so a
run of digits and points that names no finite number is reported if none in front of it is wrong
(`ofText_of_firstMalformed`). Which runs count can be seen line by line: on each line a comment is
everything from the first `#` on (`uncommented_iff`). So a text other than the empty one has no
tokens exactly if such a run is malformed, and the first of them is the fault
(`ofText_eq_error_iff`).
-/

namespace Kaleidoscope

/-- A maximal run of digits and points that has no `#` in front of it on its line. -/
structure LineRun (text before run rest : List Char) : Prop where
  chars : text = before ++ (run ++ rest)
  numeral : IsNumeral run
  starts : ∀ c ∈ before.getLast?, isNumeralChar c = false
  stops : ∀ c ∈ rest.head?, isNumeralChar c = false
  line : '#' ∉ before.rtakeWhile (· ≠ '\n')

/-- The first of these runs that names no finite number. -/
structure FirstMalformed (text before run rest : List Char) : Prop where
  lineRun : LineRun text before run rest
  malformed : Malformed run
  first : ∀ before' run' rest', LineRun text before' run' rest' → Malformed run' →
    before.length ≤ before'.length

section

variable {text before run rest s t : List Char} {name : String}

/-! ### Lines -/

theorem rtakeWhile_append_cons {p : Char → Bool} {c : Char} (hc : p c = true)
    (ht : ∀ d ∈ t, p d = true) : c ∈ (s ++ c :: t).rtakeWhile p := by
  have ht : ∀ d ∈ t.reverse, p d = true := fun d hd => ht d (List.mem_reverse.1 hd)
  rw [List.rtakeWhile, List.reverse_append, List.reverse_cons, List.append_assoc,
    List.takeWhile_append_of_pos ht, List.singleton_append, List.takeWhile_cons_of_pos hc]
  simp

/-- No comment goes on where the line has no `#` so far. -/
theorem uncommented_iff : Uncommented before ↔ '#' ∉ before.rtakeWhile (· ≠ '\n') := by
  constructor
  · intro h hmem
    obtain ⟨u, v, huv⟩ := List.append_of_mem hmem
    have hbefore : before = before.rdropWhile (· ≠ '\n') ++ u ++ '#' :: v := by
      rw [List.append_assoc, ← huv, List.rdropWhile_append_rtakeWhile]
    have hnewline : '\n' ∈ before.rtakeWhile (· ≠ '\n') := by
      rw [huv]
      exact List.mem_append_right u (List.mem_cons_of_mem _ (h _ _ hbefore))
    have := List.mem_rtakeWhile_imp hnewline
    simp at this
  · rintro h u v rfl
    by_contra hv
    refine h (rtakeWhile_append_cons (by decide) fun d hd => ?_)
    simp only [ne_eq, decide_not, Bool.not_eq_true', decide_eq_false_iff_not]
    rintro rfl
    exact hv hd

theorem numberRun_iff : NumberRun text before run rest ↔ LineRun text before run rest := by
  have hhead (h : IsNumeral run) : ∃ c ∈ (run ++ rest).head?, isNumeralChar c = true := by
    obtain ⟨c, more, rfl⟩ := List.exists_cons_of_ne_nil h.1
    exact ⟨c, rfl, h.2 c (by simp)⟩
  constructor
  · rintro ⟨hchars, hnumeral, hstarts, hstops⟩
    obtain ⟨c, hc, hdigit⟩ := hhead hnumeral
    refine ⟨hchars, hnumeral, fun d hd => Bool.eq_false_iff.2 fun hd' => ?_, hstops,
      uncommented_iff.1 hstarts.uncommented⟩
    simp [hstarts.numeral d hd hd' c hc] at hdigit
  · rintro ⟨hchars, hnumeral, hstarts, hstops, hline⟩
    obtain ⟨c, hc, hdigit⟩ := hhead hnumeral
    refine ⟨hchars, hnumeral, ⟨uncommented_iff.2 hline, fun _ _ _ d hd => ?_, fun d hd hd' => ?_⟩,
      hstops⟩
    · obtain rfl := Option.mem_unique hc hd
      exact isWordChar_of_isNumeralChar hdigit
    · simp [hstarts d hd] at hd'

end

/-! ### What is in front of a boundary -/

namespace Token.Stream

variable {l : Location} {text before run rest s : List Char} {name : String}

theorem ofLexemes_append (l : Location) (xs ys : List Lexeme) : ofLexemes l (xs ++ ys) =
    (ofLexemes l xs).bind fun st =>
      (ofLexemes (l.after (xs.flatMap Lexeme.text)) ys).map (prepend st.body) := by
  induction xs generalizing l with
  | nil =>
      cases h : ofLexemes l ys <;> simp [ofLexemes, Except.bind, Except.map, prepend, h]
  | cons x xs ih =>
      rw [List.cons_append, ofLexemes, ofLexemes, ih, List.flatMap_cons, Location.after_append]
      cases x.kind with
      | error fault => rfl
      | ok kind =>
          cases ofLexemes (l.after x.text) xs with
          | error d => cases kind <;> rfl
          | ok st =>
              cases kind with
              | none => rfl
              | some kind =>
                  cases ofLexemes ((l.after x.text).after (xs.flatMap Lexeme.text)) ys <;> rfl

/-- What is in front of a boundary is read first, and then what is behind it. -/
theorem scan_append (h : Boundary before s) (l : Location) : scan l (before ++ s) =
    (scan l before).bind fun st => (scan (l.after before) s).map (prepend st.body) := by
  rw [scan, Lexeme.cut_append h, ofLexemes_append, Lexeme.flatten_cut]
  rfl

end Token.Stream

/-! ### The first malformed run -/

section

variable {text before run rest front run' more : List Char} {name : String}

/-- A run in front of another one is a run of the whole text. -/
theorem LineRun.in_front (h : LineRun text before run rest) (hf : LineRun before front run' more) :
    LineRun text front run' (more ++ (run ++ rest)) where
  chars := by rw [h.chars, hf.chars, List.append_assoc, List.append_assoc]
  numeral := hf.numeral
  starts := hf.starts
  stops := by
    refine head_append hf.stops fun hnil => ?_
    -- nothing would separate the two runs
    have hne := hf.numeral.1
    have hlast : run'.getLast hne ∈ before.getLast? := by
      rw [hf.chars, hnil, List.append_nil, List.getLast?_append_of_ne_nil _ hne,
        List.getLast?_eq_some_getLast hne]
      rfl
    have := h.starts _ hlast
    simp [hf.numeral.2 _ (List.getLast_mem hne)] at this
  line := hf.line

theorem exists_firstMalformed (h : LineRun text before run rest) (hm : Malformed run) :
    ∃ before run rest, FirstMalformed text before run rest := by
  induction hn : before.length using Nat.strongRecOn generalizing before run rest with
  | ind n ih =>
      by_cases hfirst : ∃ before' run' rest', LineRun text before' run' rest' ∧ Malformed run' ∧
          before'.length < n
      · obtain ⟨before', run', rest', h', hm', hlt⟩ := hfirst
        exact ih before'.length hlt h' hm' rfl
      · refine ⟨before, run, rest, h, hm, fun before' run' rest' h' hm' => ?_⟩
        exact Nat.le_of_not_lt fun hlt => hfirst ⟨before', run', rest', h', hm', hn ▸ hlt⟩

open Token.Stream

theorem ofText_of_firstMalformed (name : String) (h : FirstMalformed text before run rest) :
    ofText name text = .error ⟨.behind name before, .malformedNumber⟩ := by
  have hrun := numberRun_iff.2 h.lineRun
  have htext : text ≠ [] := by
    rw [hrun.chars]
    simp [hrun.numeral.1]
  have hvalue := (Binary64.ofNumeral?_eq_none_iff hrun.numeral).2 h.malformed
  rw [ofText_eq_scan htext, hrun.chars, scan_append hrun.starts]
  cases hscan : scan (.start name) before with
  | ok st =>
      rw [← Location.behind_nil, Location.after_behind,
        scan_malformed hrun.numeral hvalue hrun.stops]
      rfl
  | error d =>
      obtain ⟨front, run', more, hf, hnone, -⟩ := exists_numberRun_of_scan hscan (.nil before)
      have hf : LineRun before front run' more := numberRun_iff.1 hf
      have hle := h.first _ _ _ (h.lineRun.in_front hf)
        ((Binary64.ofNumeral?_eq_none_iff hf.numeral).1 hnone)
      have hlen := congrArg List.length hf.chars
      have hpos := List.length_pos_iff.2 hf.numeral.1
      rw [List.length_append, List.length_append] at hlen
      omega

theorem exists_firstMalformed_of_ofText {d : Diagnostic LexicalFault} (hne : text ≠ [])
    (h : ofText name text = .error d) : ∃ before run rest, FirstMalformed text before run rest ∧
      d = ⟨.behind name before, .malformedNumber⟩ := by
  rw [ofText_eq_scan hne] at h
  obtain ⟨front, run', more, hf, hnone, -⟩ := exists_numberRun_of_scan h (.nil text)
  have hf : LineRun text front run' more := numberRun_iff.1 hf
  obtain ⟨before, run, rest, hfirst⟩ := exists_firstMalformed hf
    ((Binary64.ofNumeral?_eq_none_iff hf.numeral).1 hnone)
  rw [← ofText_eq_scan hne, ofText_of_firstMalformed name hfirst] at h
  exact ⟨before, run, rest, hfirst, (Except.error.inj h).symm⟩

theorem LexicalFault.eq_of_message {a b : LexicalFault} (h : message a = message b) : a = b := by
  cases a with
  | emptyText =>
      cases b with
      | emptyText => rfl
      | malformedNumber => exact absurd h (by decide)
  | malformedNumber =>
      cases b with
      | emptyText => exact absurd h (by decide)
      | malformedNumber => rfl

theorem Diagnostic.eq_of_text {d d' : Diagnostic LexicalFault} (hl : d.location = d'.location)
    (ht : d.text = d'.text) : d = d' := by
  obtain ⟨l, cause⟩ := d
  obtain ⟨l', cause'⟩ := d'
  obtain rfl : l = l' := hl
  obtain rfl : cause = cause' := LexicalFault.eq_of_message ht
  rfl

/-- A text has no tokens if it is empty or has a malformed run outside of comments. The empty text
is reported at its start, any other one at the first malformed run, whatever else is in it. -/
theorem ofText_eq_error_iff (name : String) (text : List Char) :
    ((∃ d, ofText name text = .error d) ↔
      text = [] ∨ ∃ before run rest, LineRun text before run rest ∧ Malformed run) ∧
    ∀ d, ofText name text = .error d ↔
      (text = [] ∧ d.location = ⟨name, 1, 1⟩ ∧ d.text = "unexpected end of file") ∨
      ∃ before run rest, FirstMalformed text before run rest ∧
        d.location = .behind name before ∧ d.text = "invalid format of number" := by
  constructor
  · constructor
    · rintro ⟨d, h⟩
      by_cases hne : text = []
      · exact .inl hne
      · obtain ⟨before, run, rest, hfirst, -⟩ := exists_firstMalformed_of_ofText hne h
        exact .inr ⟨before, run, rest, hfirst.lineRun, hfirst.malformed⟩
    · rintro (rfl | ⟨before, run, rest, hrun, hm⟩)
      · exact ⟨_, rfl⟩
      · obtain ⟨before, run, rest, hfirst⟩ := exists_firstMalformed hrun hm
        exact ⟨_, ofText_of_firstMalformed name hfirst⟩
  · intro d
    constructor
    · intro h
      by_cases hne : text = []
      · subst hne
        obtain rfl := Except.error.inj h
        exact .inl ⟨rfl, rfl, rfl⟩
      · obtain ⟨before, run, rest, hfirst, rfl⟩ := exists_firstMalformed_of_ofText hne h
        exact .inr ⟨before, run, rest, hfirst, rfl, rfl⟩
    · rintro (⟨rfl, hl, ht⟩ | ⟨before, run, rest, hfirst, hl, ht⟩)
      · exact congrArg Except.error (Diagnostic.eq_of_text hl.symm ht.symm)
      · rw [ofText_of_firstMalformed name hfirst]
        exact congrArg Except.error (Diagnostic.eq_of_text hl.symm ht.symm)

example : (ofText "t" "x # 1..2\n.5 1.2.3 .".toList).map (·.body.length) =
    .error ⟨⟨"t", 2, 4⟩, .malformedNumber⟩ := by
  decide +kernel

end

end Kaleidoscope
