import Kaleidoscope.Proofs.Numerals
import Kaleidoscope.Proofs.Pieces

/-!
Token sequences as text. `Canonical` kinds are the kinds that a text can give, and each of them is
spelled by its own text. So a sequence reads back from `render` if its kinds are canonical and one
end of the input closes them. Nothing else reads back (`readsBack_iff`): of the kinds that are equal
to a canonical one without being canonical there is only the negative zero, and its text gives two
tokens.
-/

namespace Kaleidoscope

theorem Binary64.beq_iff {x y : Binary64} : (x == y) = true ↔ x.isNaN = false ∧ y.isNaN = false ∧
    x.magnitude = y.magnitude ∧ (x.negative = y.negative ∨ x.magnitude = 0) := by
  change (_ && _ && _ && _) = true ↔ _
  simp [and_assoc]

theorem Binary64.isNumeral_chars {x : Binary64} (hf : x.isFinite = true)
    (hs : x.negative = false) : IsNumeral x.chars := by
  rw [chars_of_finite hf, hs]
  exact ⟨Decimal.chars_ne_nil _, Decimal.isNumeralChar_of_mem_chars⟩

namespace Token

namespace Kind

/-- The kinds of token that a text can give, apart from its end. -/
inductive Canonical : Kind → Prop
  | defWord : Canonical .defWord
  | externWord : Canonical .externWord
  | identifier {name : String} : IsName name.toList → Canonical (.identifier name)
  | number {value : Binary64} :
      value.isFinite = true → value.negative = false → Canonical (.number value)
  | char {c : Char} : isMark c = true → Canonical (.char c)

/-- What the text of a kind reads as. The sign of a number is a token by itself. -/
def reread : Kind → List Kind
  | number value =>
    if value.negative then [char '-', number { value with negative := false }]
    else [number value]
  | k => [k]

variable {k k' : Kind} {t rest : List Char}

theorem Canonical.spells (h : k.Canonical) : Spells k.chars k := by
  cases h with
  | defWord => exact .defWord
  | externWord => exact .externWord
  | @identifier name h =>
      have := Spells.name h
      rwa [String.ofList_toList] at this
  | number hf hs => exact .number (Binary64.isNumeral_chars hf hs) (Binary64.ofNumeral?_chars hf hs)
  | char h => exact .mark h

theorem canonical_of_spells (h : Spells t k) : k.Canonical := by
  cases h with
  | defWord => exact .defWord
  | externWord => exact .externWord
  | name h => exact .identifier (by rwa [String.toList_ofList])
  | number _ hv =>
      obtain ⟨hd, hf⟩ := Option.filter_eq_some_iff.1 hv
      obtain ⟨d, -, rfl⟩ := Option.map_eq_some_iff.1 hd
      exact .number hf rfl
  | mark h => exact .char h

theorem Canonical.ne_end (h : k.Canonical) : k ≠ .endOfInput := by
  cases h <;> simp

theorem Canonical.reread_eq (h : k.Canonical) : k.reread = [k] := by
  cases h with
  | number _ hs => simp [reread, hs]
  | _ => rfl

theorem reread_ne_nil (k : Kind) : k.reread ≠ [] := by
  unfold reread
  split
  · split <;> simp
  · simp

/-- Kinds that are equal as `==` has it are the same, unless they are numbers. -/
theorem beq_cases (h : (k == k') = true) :
    k' = k ∨ ∃ v w, k = .number v ∧ k' = .number w ∧ (v == w) = true := by
  cases k <;> cases k'
  case identifier.identifier x y =>
    have hxy : (x == y) = true := h
    exact .inl (by rw [eq_of_beq hxy])
  case char.char x y =>
    have hxy : (x == y) = true := h
    exact .inl (by rw [eq_of_beq hxy])
  case number.number v w => exact .inr ⟨v, w, rfl, rfl, h⟩
  all_goals first | exact .inl rfl | contradiction

theorem Canonical.beq_self (h : k.Canonical) : (k == k) = true := by
  cases h with
  | @number value hf _ =>
      have hm : value.magnitude < Binary64.infinity := by simpa [Binary64.isFinite] using hf
      have hnan : value.isNaN = false := by
        simp only [Binary64.isNaN, decide_eq_false_iff_not]
        omega
      exact Binary64.beq_iff.2 ⟨hnan, hnan, rfl, .inl rfl⟩
  | identifier _ => exact beq_self_eq_true (α := String) _
  | char _ => exact beq_self_eq_true (α := Char) _
  | _ => rfl

/-- Only a number can be equal to a canonical kind and be another one: a negative zero is equal to
the zero. -/
theorem Canonical.eq_or_negative_of_beq (h : k.Canonical) (he : (k == k') = true) :
    k' = k ∨ ∃ value, k' = .number value ∧ value.isFinite = true ∧ value.negative = true := by
  obtain rfl | ⟨v, w, rfl, rfl, hvw⟩ := beq_cases he
  · exact .inl rfl
  · obtain ⟨-, -, hm, -⟩ := Binary64.beq_iff.1 hvw
    cases h with
    | number hf hs =>
        cases hw : w.negative with
        | true => exact .inr ⟨w, rfl, by rwa [Binary64.isFinite, ← hm], hw⟩
        | false =>
            obtain ⟨s, m, hlt⟩ := v
            obtain ⟨s', m', hlt'⟩ := w
            obtain rfl : s = false := hs
            obtain rfl : s' = false := hw
            obtain rfl : m = m' := hm
            exact .inl rfl

theorem Canonical.ne_end_of_beq (h : k.Canonical) (he : (k == k') = true) : k' ≠ .endOfInput := by
  obtain rfl | ⟨value, rfl, -⟩ := h.eq_or_negative_of_beq he
  · exact h.ne_end
  · simp

/-- The text of a kind that is equal to a canonical one, in front of a gap or of nothing. -/
theorem Canonical.reads_chars (h : k.Canonical) (he : (k == k') = true)
    (hr : ∀ c ∈ rest.head?, isBlank c = true ∨ c = '#') :
    Stream.Reads k'.chars k'.reread rest := by
  obtain rfl | ⟨value, rfl, hf, hs⟩ := h.eq_or_negative_of_beq he
  · rw [h.reread_eq]
    exact Stream.reads_spells h.spells (stops_of_gap hr)
  · let absolute : Binary64 := { value with negative := false }
    have hminus : isMark '-' = true := by decide
    have habs : (Kind.number absolute).Canonical := .number hf rfl
    have hchars : value.chars = ['-'] ++ absolute.chars := by
      rw [Binary64.chars_of_finite hf, Binary64.chars_of_finite (x := absolute) hf, hs]
      rfl
    have hreread : (Kind.number value).reread = [Kind.char '-'] ++ [Kind.number absolute] := by
      simp [reread, hs, absolute]
    rw [chars, hchars, hreread]
    exact (Stream.reads_spells (.mark hminus) (stops_mark hminus _)).append
      (Stream.reads_spells habs.spells (stops_of_gap hr))

end Kind

variable {tokens : List Token} {kinds kinds' : List Kind}

theorem exists_beq_of_mem (h : (kinds == kinds') = true) :
    ∀ k' ∈ kinds', ∃ k ∈ kinds, (k == k') = true := by
  induction kinds generalizing kinds' with
  | nil => cases kinds' <;> simp_all
  | cons k kinds ih =>
      cases kinds' with
      | nil => simp
      | cons k' kinds' =>
          obtain ⟨hk, h⟩ := Bool.and_eq_true_iff.1 h
          refine List.forall_mem_cons.2 ⟨⟨k, by simp, hk⟩, fun l hl => ?_⟩
          obtain ⟨k, hmem, hk⟩ := ih h l hl
          exact ⟨k, by simp [hmem], hk⟩

theorem intercalate_nil_left {α : Type} (parts : List (List α)) :
    ([] : List α).intercalate parts = parts.flatten := by
  induction parts with
  | nil => rfl
  | cons part parts ih =>
      cases parts with
      | nil => simp
      | cons => simpa [List.intercalate_cons_cons] using ih

/-- Where each thing gives something, a list that gives no more than it has gives one of each. -/
theorem length_eq_one_of_flatMap {α β : Type} {f : α → List β} {xs : List α}
    (hf : ∀ x, f x ≠ []) (h : (xs.flatMap f).length = xs.length) :
    ∀ x ∈ xs, (f x).length = 1 := by
  have hle (ys : List α) : ys.length ≤ (ys.flatMap f).length := by
    induction ys with
    | nil => simp
    | cons y ys ih =>
        have := List.length_pos_iff.2 (hf y)
        rw [List.flatMap_cons, List.length_append, List.length_cons]
        omega
  induction xs with
  | nil => simp
  | cons x xs ih =>
      have hx := List.length_pos_iff.2 (hf x)
      have hxs := hle xs
      rw [List.flatMap_cons, List.length_append, List.length_cons] at h
      exact List.forall_mem_cons.2 ⟨by omega, ih (by omega)⟩

theorem render_eq (h : tokens.map (·.kind) = kinds ++ [.endOfInput])
    (hk : ∀ k ∈ kinds, k ≠ .endOfInput) :
    render tokens = [' '].intercalate (kinds.map Kind.chars) := by
  have hfilter : kinds.filter (!·.isEnd) = kinds :=
    List.filter_eq_self.2 fun k hmem => by simpa using hk k hmem
  have : (tokens.filter (!·.kind.isEnd)).map (·.kind) = kinds := by
    have := congrArg (List.filter (!·.isEnd)) h
    rw [List.filter_map, List.filter_append, hfilter] at this
    simpa [Function.comp_def, Kind.isEnd] using this
  rw [render, ← this, List.map_map]
  rfl

/-- Kinds that are equal to canonical ones are read as what their texts read as. -/
theorem reads_render (h : tokens.map (·.kind) = kinds' ++ [.endOfInput])
    (hk : ∀ k ∈ kinds, k.Canonical) (he : (kinds == kinds') = true) :
    Stream.Reads (render tokens) (kinds'.flatMap Kind.reread) [] := by
  have hcanonical : ∀ k' ∈ kinds', ∃ k : Kind, k.Canonical ∧ (k == k') = true := by
    intro k' hk'
    obtain ⟨k, hmem, hk''⟩ := exists_beq_of_mem he k' hk'
    exact ⟨k, hk k hmem, hk''⟩
  have hend : ∀ k' ∈ kinds', k' ≠ .endOfInput := by
    intro k' hk'
    obtain ⟨k, hk, hbeq⟩ := hcanonical k' hk'
    exact hk.ne_end_of_beq hbeq
  rw [render_eq h hend, List.flatMap_def, ← intercalate_nil_left]
  refine Stream.reads_intercalate (Stream.reads_gap (.blank (by decide) .nil)) ?_ ?_
  · intro k' hk' more
    obtain ⟨k, hk, hbeq⟩ := hcanonical k' hk'
    exact hk.reads_chars hbeq (by simp [isBlank])
  · intro k' hk'
    obtain ⟨k, hk, hbeq⟩ := hcanonical k' hk'
    exact hk.reads_chars hbeq (by simp)

theorem Piece.map_kind_tokens (name : String) (before : List Char) (pieces : List Piece) :
    (Piece.tokens name before pieces).map (·.kind) = pieces.map (·.kind) := by
  induction pieces generalizing before with
  | nil => rfl
  | cons p pieces ih => simp [Piece.tokens, ih]

/-- What a text gives is canonical up to its end. -/
theorem canonical_of_ofText {name : String} {text : List Char} {st : Stream}
    (h : Stream.ofText name text = .ok st) : ∃ kinds : List Kind, (∀ k ∈ kinds, k.Canonical) ∧
      st.toList.map (·.kind) = kinds ++ [.endOfInput] := by
  obtain ⟨pieces, last, hcut, rfl⟩ := Stream.exists_cutsInto_of_ofText h
  refine ⟨pieces.map (·.kind), ?_, ?_⟩
  · intro k hk
    obtain ⟨p, hp, rfl⟩ := List.mem_map.1 hk
    exact Kind.canonical_of_spells (hcut.spells p hp)
  · simp [Stream.toList, Piece.map_kind_tokens]

/-- The text of the tokens gives tokens of kinds equal to theirs. -/
def ReadsBack (name : String) (tokens : List Token) : Prop :=
  ∃ st, Stream.ofText name (render tokens) = .ok st ∧
    (st.toList.map (·.kind) == tokens.map (·.kind)) = true

theorem readsBack_of_canonical {name : String} (hne : kinds ≠ []) (hk : ∀ k ∈ kinds, k.Canonical)
    (h : tokens.map (·.kind) = kinds ++ [.endOfInput]) : ReadsBack name tokens := by
  have hself : (kinds == kinds) = true := by
    clear hne h
    induction kinds with
    | nil => rfl
    | cons k kinds ih =>
        obtain ⟨hfirst, hk⟩ := List.forall_mem_cons.1 hk
        exact Bool.and_eq_true_iff.2 ⟨hfirst.beq_self, ih hk⟩
  have hreread : kinds.flatMap Kind.reread = kinds := by
    rw [List.flatMap_congr fun k hmem => (hk k hmem).reread_eq]
    simp
  have hread := reads_render h hk hself
  rw [hreread] at hread
  obtain ⟨st, hst, hkinds⟩ := hread.ofText_eq hne name
  refine ⟨st, hst, ?_⟩
  rw [h, Stream.toList, List.map_append, hkinds, List.map_singleton, List.concat_beq_concat, hself]
  rfl

theorem canonical_of_readsBack {name : String} (h : ReadsBack name tokens) :
    ∃ kinds : List Kind, kinds ≠ [] ∧ (∀ k ∈ kinds, k.Canonical) ∧
      tokens.map (·.kind) = kinds ++ [.endOfInput] := by
  obtain ⟨st, hst, hbeq⟩ := h
  obtain ⟨kinds, hk, hkinds⟩ := canonical_of_ofText hst
  rw [hkinds] at hbeq
  -- the tokens end with an end of input too
  obtain hnil | ⟨kinds', last, hts⟩ := (tokens.map (·.kind)).eq_nil_or_concat
  · simp [hnil] at hbeq
  rw [List.concat_eq_append] at hts
  rw [hts, List.concat_beq_concat, Bool.and_eq_true_iff] at hbeq
  obtain ⟨hbeq, hlast⟩ := hbeq
  obtain rfl : last = .endOfInput := by
    cases last with
    | endOfInput => rfl
    | _ => contradiction
  -- reading the text gives as many tokens, so none of them is written with a sign
  have hne : kinds' ≠ [] := by
    rintro rfl
    rw [render_eq hts (by simp)] at hst
    contradiction
  have hreread : kinds'.flatMap Kind.reread ≠ [] := by
    obtain ⟨k', hmem⟩ := List.exists_mem_of_ne_nil _ hne
    exact fun hnil => k'.reread_ne_nil (List.flatMap_eq_nil_iff.1 hnil k' hmem)
  obtain ⟨st', hst', hreread⟩ := (reads_render hts hk hbeq).ofText_eq hreread name
  obtain rfl := Except.ok.inj (hst.symm.trans hst')
  rw [Stream.toList, List.map_append, List.map_singleton, List.append_cancel_right_eq,
    hreread] at hkinds
  have hlength : (kinds'.flatMap Kind.reread).length = kinds'.length := by
    rw [hkinds]
    exact List.length_eq_of_beq hbeq
  have hone := length_eq_one_of_flatMap Kind.reread_ne_nil hlength
  refine ⟨kinds', hne, fun k' hk' => ?_, hts⟩
  obtain ⟨k, hmem, heq⟩ := exists_beq_of_mem hbeq k' hk'
  obtain rfl | ⟨value, rfl, -, hs⟩ := (hk k hmem).eq_or_negative_of_beq heq
  · exact hk k' hmem
  · have := hone _ hk'
    simp [Kind.reread, hs] at this

/-- The kinds that a text gives are canonical, with one end of the input behind them. Tokens read
back exactly if their kinds are such, and there is one in front of the end. -/
theorem readsBack_iff (name : String) :
    (∀ text st, Stream.ofText name text = .ok st → ∃ kinds : List Kind,
      (∀ k ∈ kinds, k.Canonical) ∧ st.toList.map (·.kind) = kinds ++ [.endOfInput]) ∧
    ∀ tokens, ReadsBack name tokens ↔ ∃ kinds : List Kind, kinds ≠ [] ∧
      (∀ k ∈ kinds, k.Canonical) ∧ tokens.map (·.kind) = kinds ++ [.endOfInput] :=
  ⟨fun _ _ => canonical_of_ofText, fun _ => ⟨canonical_of_readsBack,
    fun ⟨_, hne, hk, h⟩ => readsBack_of_canonical hne hk h⟩⟩

/-- The tokens of a text with this one kind in it. -/
def alone (k : Kind) : List Token :=
  [⟨k, .start ""⟩, ⟨.endOfInput, .start ""⟩]

/-- A name reads back. The negative zero, equal to a number that a text can give, does not. -/
theorem readsBack_nameNotNegativeZero : ReadsBack "" (alone (.identifier "x")) ∧
    (∃ text st, Stream.ofText "" text = .ok st ∧ ∃ kinds : List Kind,
      (∀ k ∈ kinds, k.Canonical) ∧ st.toList.map (·.kind) = kinds ++ [.endOfInput]) ∧
    ¬ReadsBack "" (alone (.number ⟨true, 0, by decide⟩)) := by
  obtain ⟨hcanonical, hback⟩ := readsBack_iff ""
  have hname : ReadsBack "" (alone (.identifier "x")) :=
    (hback _).2 ⟨[.identifier "x"], by simp, by simpa using .identifier (by decide), rfl⟩
  refine ⟨hname, ?_, fun hzero => ?_⟩
  · obtain ⟨st, hst, -⟩ := hname
    exact ⟨_, st, hst, hcanonical _ _ hst⟩
  · obtain ⟨kinds, -, hk, h⟩ := (hback _).1 hzero
    obtain rfl : [Kind.number ⟨true, 0, by decide⟩] = kinds :=
      List.append_cancel_right (show _ ++ [Kind.endOfInput] = _ from h)
    cases hk _ (List.mem_singleton_self _) with
    | number _ hs => contradiction

end Token

end Kaleidoscope
