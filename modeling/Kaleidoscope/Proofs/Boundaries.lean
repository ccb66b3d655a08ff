import Kaleidoscope.Proofs.Pieces

/-!
The places of a text where one lexeme has ended and another one can start: not within a comment, a
word or a numeral. There a text is cut as its two sides are (`cut_append`), and every token of a
text stands at such a place (`standsIn_of_ofText`). So the numerals among the tokens are the maximal
runs of digits and points outside of comments, and a text has tokens exactly if it is not empty and
each of these names a finite number (`exists_ofText_iff`).
-/

namespace Kaleidoscope

/-- Behind each `#` there is a newline, so no comment goes on. -/
def Uncommented (before : List Char) : Prop :=
  ∀ u v, before = u ++ '#' :: v → '\n' ∈ v

/-- Between these two stretches of a text no lexeme but a blank or a comment goes on. -/
structure Boundary (before rest : List Char) : Prop where
  uncommented : Uncommented before
  word : ∀ c ∈ before.getLast?, isWordChar c = true → ∀ d ∈ rest.head?, isWordChar d = false
  numeral : ∀ c ∈ before.getLast?, isNumeralChar c = true →
    ∀ d ∈ rest.head?, isNumeralChar d = false

/-- The token is written in the text at its location, and is as long as it can be there. -/
def Token.StandsIn (name : String) (text : List Char) (t : Token) : Prop :=
  ∃ before lexeme rest, text = before ++ (lexeme ++ rest) ∧ t.location = .behind name before ∧
    Spells lexeme t.kind ∧ Boundary before (lexeme ++ rest) ∧ Stops lexeme rest

/-- A maximal run of digits and points outside of comments. -/
structure NumberRun (text before run rest : List Char) : Prop where
  chars : text = before ++ (run ++ rest)
  numeral : IsNumeral run
  starts : Boundary before (run ++ rest)
  stops : ∀ c ∈ rest.head?, isNumeralChar c = false

section

variable {before rest s t u w : List Char} {c : Char} {k : Token.Kind}

theorem uncommented_nil : Uncommented [] := by
  simp [Uncommented]

theorem Uncommented.append (h : Uncommented before) (ht : '#' ∉ t) : Uncommented (before ++ t) := by
  intro u v huv
  obtain ⟨a, rfl, rfl⟩ | ⟨a, rfl, ha⟩ := List.append_eq_append_iff.1 huv
  · simp at ht
  · cases a with
    | nil =>
        subst ha
        simp at ht
    | cons d a =>
        obtain ⟨rfl, rfl⟩ := List.cons.inj ha
        exact List.mem_append_left t (h u a rfl)

theorem uncommented_newline (s : List Char) : Uncommented (s ++ ['\n']) := by
  intro u v huv
  obtain rfl | ⟨init, d, rfl⟩ := v.eq_nil_or_concat
  · have := (List.append_inj' huv rfl).2
    simp at this
  · rw [List.concat_eq_append, ← List.cons_append, ← List.append_assoc] at huv
    obtain ⟨-, hd⟩ := List.append_inj' huv rfl
    simp [← hd]

theorem Uncommented.drop (h : Uncommented (u ++ before)) : Uncommented before := by
  rintro a v rfl
  exact h (u ++ a) v (by simp)

theorem Uncommented.append_gap (h : Uncommented before) (hw : Gap w) :
    Uncommented (before ++ w) := by
  induction hw generalizing before with
  | nil => simpa using h
  | @blank c w hc _ ih =>
      have hc : '#' ∉ [c] := by
        rintro hmem
        obtain rfl := List.mem_singleton.1 hmem
        contradiction
      simpa using ih (h.append hc)
  | @comment t w _ _ ih =>
      have hline := uncommented_newline (before ++ '#' :: t)
      simpa using ih hline

theorem Gap.getLast (h : Gap w) : ∀ c ∈ w.getLast?, isBlank c = true := by
  induction h with
  | nil => simp
  | @blank c w hc _ ih =>
      cases w with
      | nil => simpa using hc
      | cons d w => simpa using ih
  | @comment t w _ _ ih =>
      rw [List.getLast?_append_of_ne_nil _ (List.cons_ne_nil _ _)]
      cases w with
      | nil => simp [isBlank]
      | cons d w => simpa using ih

theorem Spells.not_mem (h : Spells t k) : '#' ∉ t := by
  intro hmem
  rcases h.class with hw | hn | ⟨c, rfl, hm⟩
  · have := hw.2 _ hmem
    contradiction
  · have := hn.2 _ hmem
    contradiction
  · obtain rfl := List.mem_singleton.1 hmem
    contradiction

namespace Boundary

theorem nil (rest : List Char) : Boundary [] rest :=
  ⟨uncommented_nil, by simp, by simp⟩

theorem drop (h : Boundary (u ++ before) rest) (hb : before ≠ []) : Boundary before rest := by
  have hlast := List.getLast?_append_of_ne_nil u hb
  exact ⟨h.uncommented.drop, hlast ▸ h.word, hlast ▸ h.numeral⟩

theorem gap (h : Boundary before (w ++ rest)) (hw : Gap w) : Boundary (before ++ w) rest := by
  by_cases hnil : w = []
  · simpa [hnil] using h
  · have hlast := List.getLast?_append_of_ne_nil before hnil
    refine ⟨h.uncommented.append_gap hw, fun c hc hword => ?_, fun c hc hnumeral => ?_⟩
    · have := isWordChar_of_isBlank (hw.getLast c (hlast ▸ hc))
      simp [hword] at this
    · have := isNumeralChar_of_isBlank (hw.getLast c (hlast ▸ hc))
      simp [hnumeral] at this

theorem spells (h : Boundary before (t ++ rest)) (ht : Spells t k) (hs : Stops t rest) :
    Boundary (before ++ t) rest := by
  have hlast := List.getLast?_append_of_ne_nil before ht.ne_nil
  refine ⟨h.uncommented.append ht.not_mem, fun c hc hword => ?_, fun c hc hnumeral => ?_⟩
  · have hmem := List.mem_of_getLast? (hlast ▸ hc)
    exact hs.1 (ht.isWord hmem hword)
  · have hmem := List.mem_of_getLast? (hlast ▸ hc)
    exact hs.2 (ht.isNumeral hmem hnumeral)

theorem head_of_word (h : Boundary before rest) (hw : IsWord before) :
    ∀ d ∈ rest.head?, isWordChar d = false :=
  h.word _ (List.getLast?_eq_some_getLast hw.1) (hw.2 _ (List.getLast_mem hw.1))

theorem head_of_numeral (h : Boundary before rest) (hn : IsNumeral before) :
    ∀ d ∈ rest.head?, isNumeralChar d = false :=
  h.numeral _ (List.getLast?_eq_some_getLast hn.1) (hn.2 _ (List.getLast_mem hn.1))

end Boundary

/-! ### Cutting at a boundary -/

theorem head_append {p : Char → Bool} (ht : ∀ c ∈ t.head?, p c = false)
    (hs : t = [] → ∀ c ∈ s.head?, p c = false) : ∀ c ∈ (t ++ s).head?, p c = false := by
  cases t with
  | nil => exact hs rfl
  | cons c t => exact ht

/-- A text is cut at a boundary as its two sides are. -/
theorem Lexeme.cut_append (h : Boundary before s) : cut (before ++ s) = cut before ++ cut s := by
  induction hn : before.length using Nat.strongRecOn generalizing before with
  | ind n ih =>
      -- what stands behind the first lexeme
      have more {u b : List Char} (hub : before = u ++ b) (hu : u ≠ []) :
          cut (b ++ s) = cut b ++ cut s := by
        subst hub
        have hpos := List.length_pos_iff.2 hu
        rw [List.length_append] at hn
        by_cases hb : b = []
        · simp [hb, cut_nil]
        · exact ih b.length (by omega) (h.drop hb) rfl
      cases before with
      | nil => simp [cut_nil]
      | cons c before =>
          by_cases hb : isBlank c = true
          · rw [List.cons_append, cut_blank hb, cut_blank hb, more (u := [c]) rfl (by simp)]
            rfl
          by_cases hw : isWordChar c = true
          · obtain ⟨t, r, rfl, ht, hr⟩ := exists_span isWordChar before
            have hword : IsWord (c :: t) := ⟨by simp, List.forall_mem_cons.2 ⟨hw, ht⟩⟩
            have hstop := head_append hr fun hnil =>
              Boundary.head_of_word (by simpa [hnil] using h) hword
            rw [← List.cons_append, List.append_assoc, cut_word hword hstop, cut_word hword hr,
              more rfl hword.1]
            rfl
          by_cases hm : isNumeralChar c = true
          · obtain ⟨t, r, rfl, ht, hr⟩ := exists_span isNumeralChar before
            have hnumeral : IsNumeral (c :: t) := ⟨by simp, List.forall_mem_cons.2 ⟨hm, ht⟩⟩
            have hstop := head_append hr fun hnil =>
              Boundary.head_of_numeral (by simpa [hnil] using h) hnumeral
            rw [← List.cons_append, List.append_assoc, cut_numeral hnumeral hstop,
              cut_numeral hnumeral hr, more rfl hnumeral.1]
            rfl
          by_cases hc : c = '#'
          -- a comment has ended, so a newline stands behind it
          · subst hc
            obtain ⟨t, r, rfl, ht, hr⟩ := exists_span (!isNewline ·) before
            have ht : ∀ c ∈ t, c ≠ '\n' := by simpa [isNewline] using ht
            have hr : ∀ c ∈ r.head?, c = '\n' := by simpa [isNewline] using hr
            have hne : r ≠ [] := by
              rintro rfl
              have := h.uncommented [] (t ++ []) rfl
              simp only [List.append_nil] at this
              exact ht _ this rfl
            have hstop : ∀ c ∈ (r ++ s).head?, c = '\n' := by
              rwa [List.head?_append_of_ne_nil r hne]
            rw [← List.cons_append, List.append_assoc, cut_comment ht hstop, cut_comment ht hr,
              more rfl (List.cons_ne_nil '#' t)]
            rfl
          · have hmark : isMark c = true :=
              isMark_iff.2 ⟨by simpa using hb, by simpa using hw, by simpa using hm, hc⟩
            rw [List.cons_append, cut_mark hmark, cut_mark hmark, more (u := [c]) rfl (by simp)]
            rfl

end

/-! ### Tokens in their places -/

namespace Token.Stream

variable {name : String} {text before s last : List Char} {pieces : List Piece} {st : Stream}

theorem standsIn_of_cutsInto (h : CutsInto s pieces last) (hb : Boundary before s) :
    ∀ t ∈ Piece.tokens name before pieces, t.StandsIn name (before ++ s) := by
  induction pieces generalizing s before with
  | nil => exact nofun
  | cons p pieces ih =>
      obtain ⟨rest, rfl, hw, ht, hs, hrest⟩ := cutsInto_cons_iff.1 h
      have hgap := hb.gap hw
      refine List.forall_mem_cons.2 ⟨⟨before ++ p.gap, p.text, rest, ?_, rfl, ht, hgap, hs⟩, ?_⟩
      · rw [List.append_assoc]
      · have hmore := ih hrest (hgap.spells ht hs)
        simpa [Piece.chars] using hmore

theorem standsIn_of_ofText (h : ofText name text = .ok st) :
    ∀ t ∈ st.body, t.StandsIn name text := by
  obtain ⟨pieces, last, hcut, rfl⟩ := exists_cutsInto_of_ofText h
  exact standsIn_of_cutsInto hcut (.nil text)

/-! ### Runs of digits and points -/

theorem exists_kind_of_ofLexemes {l : Location} {lexemes : List Lexeme}
    (h : ofLexemes l lexemes = .ok st) : ∀ lexeme ∈ lexemes, ∃ k, lexeme.kind = .ok k := by
  induction lexemes generalizing l st with
  | nil => exact nofun
  | cons lexeme lexemes ih =>
      rw [ofLexemes] at h
      cases hk : lexeme.kind with
      | error fault => simp [hk] at h
      | ok k =>
          cases hmore : ofLexemes (l.after lexeme.text) lexemes with
          | error d => cases k <;> simp [hk, hmore, Except.map] at h
          | ok st' => exact List.forall_mem_cons.2 ⟨⟨k, hk⟩, ih hmore⟩

/-- In a text that has tokens each run names a number. -/
theorem exists_value_of_ofText (h : ofText name text = .ok st) {run rest : List Char}
    (hrun : NumberRun text before run rest) : ∃ value, Binary64.ofNumeral? run = some value := by
  have hcut : Lexeme.cut text =
      Lexeme.cut before ++ Lexeme.numeral run :: Lexeme.cut rest := by
    rw [hrun.chars, Lexeme.cut_append hrun.starts, Lexeme.cut_numeral hrun.numeral hrun.stops]
  have h := scan_of_ofText h
  rw [scan, hcut] at h
  obtain ⟨k, hk⟩ := exists_kind_of_ofLexemes h (.numeral run) (by simp)
  rw [Lexeme.kind] at hk
  split at hk
  · exact ⟨_, ‹_›⟩
  · contradiction

/-- Where a text has no tokens, some run names no number. -/
theorem exists_numberRun_of_scan {l : Location} {d : Diagnostic LexicalFault}
    (h : scan l s = .error d) (hb : Boundary before s) : ∃ front run rest,
      NumberRun (before ++ s) (before ++ front) run rest ∧ Binary64.ofNumeral? run = none ∧
        d = ⟨l.after front, .malformedNumber⟩ := by
  induction hn : s.length using Nat.strongRecOn generalizing s before l with
  | ind n ih =>
      cases begins s with
      | finish he =>
          rw [scan_endGap he] at h
          contradiction
      | @token w t rest k hw ht hs =>
          have hmore := (hb.gap hw).spells ht hs
          rw [scan_gap hw, scan_spells ht hs] at h
          have hpos := List.length_pos_iff.2 ht.ne_nil
          simp only [List.length_append] at hn
          cases hrest : scan ((l.after w).after t) rest with
          | ok st =>
              rw [hrest] at h
              contradiction
          | error d' =>
              rw [hrest] at h
              obtain rfl : d' = d := Except.error.inj h
              obtain ⟨front, run, last, hrun, hbad, hd⟩ := ih rest.length (by omega) hrest hmore rfl
              refine ⟨w ++ (t ++ front), run, last, by simpa using hrun, hbad, ?_⟩
              rw [hd, Location.after_append, Location.after_append]
      | @malformed w t rest hw ht hv hr =>
          rw [scan_gap hw, scan_malformed ht hv hr] at h
          have hrun : NumberRun (before ++ (w ++ (t ++ rest))) (before ++ w) t rest :=
            ⟨by simp, ht, hb.gap hw, hr⟩
          exact ⟨w, t, rest, hrun, hv, (Except.error.inj h).symm⟩

/-- A text has tokens exactly if it is not empty and each run of digits and points outside of
comments names a finite number. -/
theorem exists_ofText_iff (name : String) (text : List Char) :
    (∃ st, ofText name text = .ok st) ↔ text ≠ [] ∧ ∀ before run rest,
      NumberRun text before run rest → ∃ value, Binary64.ofNumeral? run = some value := by
  constructor
  · rintro ⟨st, h⟩
    refine ⟨?_, fun before run rest hrun => exists_value_of_ofText h hrun⟩
    rintro rfl
    contradiction
  · rintro ⟨hne, hruns⟩
    rw [ofText_eq_scan hne]
    cases h : scan (.start name) text with
    | ok st => exact ⟨st, rfl⟩
    | error d =>
        obtain ⟨front, run, rest, hrun, hbad, -⟩ := exists_numberRun_of_scan h (.nil text)
        obtain ⟨value, hvalue⟩ := hruns _ _ _ hrun
        simp [hbad] at hvalue

end Token.Stream

end Kaleidoscope
