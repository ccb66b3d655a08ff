import Kaleidoscope.Token.OfText
import Mathlib.Data.List.Basic

/-!
Reading a text from the front. `scan` is what is left to do at a location, and each law takes one
stretch away: a gap, which has no token, or the text of one token, where what follows does not
belong to it (`scan_gap`, `scan_spells`). Every text starts with one of the two, or with a numeral
that names no finite number (`begins`).
-/

namespace Kaleidoscope

/-! ### Classes of characters -/

/-- The characters that are tokens by themselves. -/
def isMark (c : Char) : Bool :=
  !isBlank c && !isWordChar c && !isNumeralChar c && c ≠ '#'

section

variable {c : Char}

theorem isBlank_iff : isBlank c = true ↔ c ∈ [' ', '\t', '\n', '\x0B', '\x0C', '\r'] := by
  simp [isBlank, or_assoc]

theorem isWordChar_of_isBlank (h : isBlank c = true) : isWordChar c = false := by
  have := isBlank_iff.1 h
  simp only [List.mem_cons, List.not_mem_nil, or_false] at this
  rcases this with rfl | rfl | rfl | rfl | rfl | rfl <;> rfl

theorem isNumeralChar_of_isBlank (h : isBlank c = true) : isNumeralChar c = false := by
  have := isBlank_iff.1 h
  simp only [List.mem_cons, List.not_mem_nil, or_false] at this
  rcases this with rfl | rfl | rfl | rfl | rfl | rfl <;> rfl

theorem isDigit_of_isAlpha (h : c.isAlpha = true) : c.isDigit = false := by
  have hcodes : (decide (65 ≤ c.val ∧ c.val ≤ 90) ||
      (decide (97 ≤ c.val) && decide (c.val ≤ 122))) = true := h
  simp only [Bool.or_eq_true, Bool.and_eq_true, decide_eq_true_eq,
    UInt32.le_iff_toNat_le] at hcodes
  simp only [Char.isDigit, Bool.and_eq_false_iff, decide_eq_false_iff_not, ge_iff_le,
    UInt32.le_iff_toNat_le]
  change (65 ≤ c.toNat ∧ c.toNat ≤ 90) ∨ (97 ≤ c.toNat ∧ c.toNat ≤ 122) at hcodes
  change ¬48 ≤ c.toNat ∨ ¬c.toNat ≤ 57
  omega

theorem isNumeralChar_of_isWordChar (h : isWordChar c = true) : isNumeralChar c = false := by
  have hword : c.isAlpha = true ∨ c = '_' := by simpa [isWordChar] using h
  rcases hword with halpha | rfl
  · have hpoint : c ≠ '.' := by
      rintro rfl
      contradiction
    simp [isNumeralChar, isDigit_of_isAlpha halpha, hpoint]
  · rfl

theorem isBlank_of_isWordChar (h : isWordChar c = true) : isBlank c = false := by
  cases hb : isBlank c with
  | false => rfl
  | true => simp [isWordChar_of_isBlank hb] at h

theorem isBlank_of_isNumeralChar (h : isNumeralChar c = true) : isBlank c = false := by
  cases hb : isBlank c with
  | false => rfl
  | true => simp [isNumeralChar_of_isBlank hb] at h

theorem isWordChar_of_isNumeralChar (h : isNumeralChar c = true) : isWordChar c = false := by
  cases hw : isWordChar c with
  | false => rfl
  | true => simp [isNumeralChar_of_isWordChar hw] at h

theorem isMark_iff : isMark c = true ↔
    isBlank c = false ∧ isWordChar c = false ∧ isNumeralChar c = false ∧ c ≠ '#' := by
  simp [isMark, and_assoc]

end

/-! ### Stretches of text -/

/-- Letters and underscores. -/
def IsWord (t : List Char) : Prop :=
  t ≠ [] ∧ ∀ c ∈ t, isWordChar c = true

/-- Digits and points. -/
def IsNumeral (t : List Char) : Prop :=
  t ≠ [] ∧ ∀ c ∈ t, isNumeralChar c = true

/-- A word that the grammar does not keep for itself. -/
def IsName (t : List Char) : Prop :=
  IsWord t ∧ t ≠ ['d', 'e', 'f'] ∧ t ≠ ['e', 'x', 't', 'e', 'r', 'n']

-- Over the characters of the text: the instance for `∀ c ∈ t` may try every character there is.
instance : DecidablePred IsWord := fun t =>
  decidable_of_iff (t ≠ [] ∧ t.all isWordChar = true) (by rw [IsWord, List.all_eq_true])

instance : DecidablePred IsName := fun t =>
  inferInstanceAs (Decidable (IsWord t ∧ _ ∧ _))

/-- The text of one token. -/
inductive Spells : List Char → Token.Kind → Prop
  | defWord : Spells ['d', 'e', 'f'] .defWord
  | externWord : Spells ['e', 'x', 't', 'e', 'r', 'n'] .externWord
  | name {t : List Char} : IsName t → Spells t (.identifier (String.ofList t))
  | number {t : List Char} {value : Binary64} :
      IsNumeral t → Binary64.ofNumeral? t = some value → Spells t (.number value)
  | mark {c : Char} : isMark c = true → Spells [c] (.char c)

/-- Blanks and comments in a row. A comment ends with its line. -/
inductive Gap : List Char → Prop
  | nil : Gap []
  | blank {c : Char} {w : List Char} : isBlank c = true → Gap w → Gap (c :: w)
  | comment {t w : List Char} : (∀ c ∈ t, c ≠ '\n') → Gap w → Gap ('#' :: t ++ '\n' :: w)

/-- What may stand behind the last token: a gap, or one whose last comment ends with the text. -/
inductive EndGap : List Char → Prop
  | gap {w : List Char} : Gap w → EndGap w
  | comment {w t : List Char} : Gap w → (∀ c ∈ t, c ≠ '\n') → EndGap (w ++ '#' :: t)

/-- What follows does not go on with a word or with a numeral. -/
def Stops (t rest : List Char) : Prop :=
  (IsWord t → ∀ c ∈ rest.head?, isWordChar c = false) ∧
    (IsNumeral t → ∀ c ∈ rest.head?, isNumeralChar c = false)

section

variable {c : Char} {s t w v rest : List Char} {k : Token.Kind}

theorem Gap.append (h : Gap w) (h' : Gap v) : Gap (w ++ v) := by
  induction h with
  | nil => exact h'
  | blank hc _ ih => exact .blank hc ih
  | comment ht _ ih => simpa using Gap.comment ht ih

theorem Gap.endGap_append (h : Gap w) (h' : EndGap v) : EndGap (w ++ v) := by
  cases h' with
  | gap hv => exact .gap (h.append hv)
  | comment hv ht =>
      rw [← List.append_assoc]
      exact .comment (h.append hv) ht

theorem Gap.head (h : Gap w) : ∀ c ∈ w.head?, isBlank c = true ∨ c = '#' := by
  cases h with
  | nil => simp
  | blank hc _ => simp [hc]
  | comment _ _ => simp

theorem EndGap.head (h : EndGap w) : ∀ c ∈ w.head?, isBlank c = true ∨ c = '#' := by
  cases h with
  | gap h => exact h.head
  | @comment w t h _ =>
      cases w with
      | nil => simp
      | cons c w => simpa using h.head

/-- Neither words nor numerals go on with a gap. -/
theorem stops_of_gap (h : ∀ c ∈ rest.head?, isBlank c = true ∨ c = '#') : Stops t rest := by
  refine ⟨fun _ c hc => ?_, fun _ c hc => ?_⟩ <;> rcases h c hc with hb | rfl
  · exact isWordChar_of_isBlank hb
  · rfl
  · exact isNumeralChar_of_isBlank hb
  · rfl

/-- A mark goes on with nothing. -/
theorem stops_mark (h : isMark c = true) (rest : List Char) : Stops [c] rest := by
  obtain ⟨-, hw, hn, -⟩ := isMark_iff.1 h
  refine ⟨fun hword => ?_, fun hnumeral => ?_⟩
  · simp [hword.2 c (by simp)] at hw
  · simp [hnumeral.2 c (by simp)] at hn

theorem Spells.ne_nil (h : Spells t k) : t ≠ [] := by
  cases h with
  | name h => exact h.1.1
  | number h _ => exact h.1
  | _ => simp

theorem Spells.class (h : Spells t k) :
    IsWord t ∨ IsNumeral t ∨ ∃ c, t = [c] ∧ isMark c = true := by
  cases h with
  | defWord => exact .inl (by decide)
  | externWord => exact .inl (by decide)
  | name h => exact .inl h.1
  | number h _ => exact .inr (.inl h)
  | mark h => exact .inr (.inr ⟨_, rfl, h⟩)

theorem Spells.isWord (h : Spells t k) (hmem : c ∈ t) (hc : isWordChar c = true) : IsWord t := by
  rcases h.class with hw | hn | ⟨d, rfl, hm⟩
  · exact hw
  · simp [isWordChar_of_isNumeralChar (hn.2 c hmem)] at hc
  · obtain rfl := List.mem_singleton.1 hmem
    simp [(isMark_iff.1 hm).2.1] at hc

theorem Spells.isNumeral (h : Spells t k) (hmem : c ∈ t) (hc : isNumeralChar c = true) :
    IsNumeral t := by
  rcases h.class with hw | hn | ⟨d, rfl, hm⟩
  · simp [isNumeralChar_of_isWordChar (hw.2 c hmem)] at hc
  · exact hn
  · obtain rfl := List.mem_singleton.1 hmem
    simp [(isMark_iff.1 hm).2.2.1] at hc

/-! ### The first lexeme -/

theorem takeWhile_append_of_stop {p : Char → Bool} (ht : ∀ c ∈ t, p c = true)
    (hr : ∀ c ∈ rest.head?, p c = false) : (t ++ rest).takeWhile p = t := by
  rw [List.takeWhile_append_of_pos ht]
  cases rest with
  | nil => simp
  | cons c rest => simp [hr c rfl]

theorem dropWhile_append_of_stop {p : Char → Bool} (ht : ∀ c ∈ t, p c = true)
    (hr : ∀ c ∈ rest.head?, p c = false) : (t ++ rest).dropWhile p = rest := by
  rw [List.dropWhile_append_of_pos ht]
  cases rest with
  | nil => simp
  | cons c rest => simp [hr c rfl]

end

namespace Lexeme

variable {c : Char} {s t rest : List Char}

theorem cut_nil : cut [] = [] := by
  rw [cut]

theorem cut_blank (h : isBlank c = true) : cut (c :: s) = blank c :: cut s := by
  rw [cut, if_pos h]

theorem cut_mark (h : isMark c = true) : cut (c :: s) = mark c :: cut s := by
  obtain ⟨hb, hw, hn, hc⟩ := isMark_iff.1 h
  rw [cut, if_neg (by simp [hb]), if_neg (by simp [hw]), if_neg (by simp [hn]), if_neg hc]

theorem cut_word (h : IsWord t) (hr : ∀ c ∈ rest.head?, isWordChar c = false) :
    cut (t ++ rest) = word t :: cut rest := by
  obtain ⟨hne, hall⟩ := h
  obtain ⟨c, t, rfl⟩ := List.exists_cons_of_ne_nil hne
  obtain ⟨hc, ht⟩ := List.forall_mem_cons.1 hall
  rw [List.cons_append, cut, if_neg (by simp [isBlank_of_isWordChar hc]), if_pos hc,
    takeWhile_append_of_stop ht hr, dropWhile_append_of_stop ht hr]

theorem cut_numeral (h : IsNumeral t) (hr : ∀ c ∈ rest.head?, isNumeralChar c = false) :
    cut (t ++ rest) = numeral t :: cut rest := by
  obtain ⟨hne, hall⟩ := h
  obtain ⟨c, t, rfl⟩ := List.exists_cons_of_ne_nil hne
  obtain ⟨hc, ht⟩ := List.forall_mem_cons.1 hall
  rw [List.cons_append, cut, if_neg (by simp [isBlank_of_isNumeralChar hc]),
    if_neg (by simp [isWordChar_of_isNumeralChar hc]), if_pos hc,
    takeWhile_append_of_stop ht hr, dropWhile_append_of_stop ht hr]

theorem cut_comment (ht : ∀ c ∈ t, c ≠ '\n') (hr : ∀ c ∈ rest.head?, c = '\n') :
    cut ('#' :: t ++ rest) = comment t :: cut rest := by
  have ht : ∀ c ∈ t, (!isNewline c) = true := by simpa [isNewline] using ht
  have hr : ∀ c ∈ rest.head?, (!isNewline c) = false := by simpa [isNewline] using hr
  rw [List.cons_append, cut, if_neg (by decide), if_neg (by decide), if_neg (by decide), if_pos rfl,
    takeWhile_append_of_stop ht hr, dropWhile_append_of_stop ht hr]

end Lexeme

/-! ### Reading on -/

namespace Token.Stream

/-- The tokens of what is left of a text at a location. -/
def scan (l : Location) (s : List Char) : Except (Diagnostic LexicalFault) Stream :=
  ofLexemes l (Lexeme.cut s)

variable {l : Location} {c : Char} {s t w rest : List Char} {k : Kind}

theorem ofText_eq_scan {name : String} (h : s ≠ []) : ofText name s = scan (.start name) s := by
  rw [ofText, if_neg (by simpa using h), scan]

theorem scan_of_ofText {name : String} {st : Stream} (h : ofText name s = .ok st) :
    scan (.start name) s = .ok st := by
  have hs : s ≠ [] := by
    rintro rfl
    contradiction
  rwa [ofText_eq_scan hs] at h

@[simp] theorem scan_nil (l : Location) : scan l [] = .ok ⟨[], l⟩ := by
  rw [scan, Lexeme.cut_nil]
  rfl

theorem scan_blank (h : isBlank c = true) : scan l (c :: s) = scan (l.step c) s := by
  rw [scan, Lexeme.cut_blank h]
  rfl

theorem scan_comment (ht : ∀ c ∈ t, c ≠ '\n') (hr : ∀ c ∈ rest.head?, c = '\n') :
    scan l ('#' :: t ++ rest) = scan (l.after ('#' :: t)) rest := by
  rw [scan, Lexeme.cut_comment ht hr]
  rfl

theorem scan_word (h : IsWord t) (hr : ∀ c ∈ rest.head?, isWordChar c = false) :
    scan l (t ++ rest) = (scan (l.after t) rest).map (.cons ⟨.ofWord t, l⟩) := by
  rw [scan, Lexeme.cut_word h hr]
  rfl

theorem scan_number {value : Binary64} (h : IsNumeral t) (hv : Binary64.ofNumeral? t = some value)
    (hr : ∀ c ∈ rest.head?, isNumeralChar c = false) :
    scan l (t ++ rest) = (scan (l.after t) rest).map (.cons ⟨.number value, l⟩) := by
  rw [scan, Lexeme.cut_numeral h hr]
  simp only [ofLexemes, Lexeme.kind, hv]
  rfl

/-- A numeral that names no finite number is where the reading ends. -/
theorem scan_malformed (h : IsNumeral t) (hv : Binary64.ofNumeral? t = none)
    (hr : ∀ c ∈ rest.head?, isNumeralChar c = false) :
    scan l (t ++ rest) = .error ⟨l, .malformedNumber⟩ := by
  rw [scan, Lexeme.cut_numeral h hr]
  simp only [ofLexemes, Lexeme.kind, hv]

theorem scan_mark (h : isMark c = true) :
    scan l (c :: s) = (scan (l.step c) s).map (.cons ⟨.char c, l⟩) := by
  rw [scan, Lexeme.cut_mark h]
  rfl

theorem scan_gap (h : Gap w) (l : Location) (s : List Char) :
    scan l (w ++ s) = scan (l.after w) s := by
  induction h generalizing l with
  | nil => rfl
  | blank hc _ ih =>
      rw [List.cons_append, scan_blank hc, ih]
      rfl
  | @comment t w ht _ ih =>
      have hr : ∀ c ∈ ('\n' :: w ++ s).head?, c = '\n' := by simp
      rw [List.append_assoc, scan_comment ht hr, List.cons_append, scan_blank (by decide), ih,
        Location.after_append]
      rfl

theorem scan_endGap (h : EndGap w) (l : Location) : scan l w = .ok ⟨[], l.after w⟩ := by
  cases h with
  | @gap w h =>
      rw [← List.append_nil w, scan_gap h, scan_nil, List.append_nil]
  | @comment w t h ht =>
      have hr : ∀ c ∈ ([] : List Char).head?, c = '\n' := by simp
      rw [scan_gap h, ← List.append_nil ('#' :: t), scan_comment ht hr, scan_nil,
        ← Location.after_append, List.append_nil]

theorem ofWord_name (h : IsName t) : Kind.ofWord t = .identifier (String.ofList t) := by
  rw [Kind.ofWord, if_neg h.2.1, if_neg h.2.2]

theorem scan_spells (h : Spells t k) (hs : Stops t rest) (l : Location) :
    scan l (t ++ rest) = (scan (l.after t) rest).map (.cons ⟨k, l⟩) := by
  cases h with
  | defWord =>
      have hw : IsWord ['d', 'e', 'f'] := by decide
      exact scan_word hw (hs.1 hw)
  | externWord =>
      have hw : IsWord ['e', 'x', 't', 'e', 'r', 'n'] := by decide
      exact scan_word hw (hs.1 hw)
  | name h =>
      rw [scan_word h.1 (hs.1 h.1), ofWord_name h]
  | number h hv => exact scan_number h hv (hs.2 h)
  | mark h => exact scan_mark h

end Token.Stream

/-! ### The start of a text -/

section

variable {c : Char} {s t rest : List Char}

/-- As much as possible of one class, and what follows. -/
theorem exists_span (p : Char → Bool) (s : List Char) : ∃ t rest, s = t ++ rest ∧
    (∀ c ∈ t, p c = true) ∧ ∀ c ∈ rest.head?, p c = false := by
  induction s with
  | nil => exact ⟨[], [], rfl, by simp, by simp⟩
  | cons c s ih =>
      by_cases hc : p c = true
      · obtain ⟨t, rest, rfl, ht, hr⟩ := ih
        exact ⟨c :: t, rest, rfl, List.forall_mem_cons.2 ⟨hc, ht⟩, hr⟩
      · exact ⟨[], c :: s, rfl, by simp, by simpa using hc⟩

theorem spells_ofWord (h : IsWord t) : Spells t (.ofWord t) := by
  unfold Token.Kind.ofWord
  split
  · subst_vars
    exact .defWord
  · split
    · subst_vars
      exact .externWord
    · exact .name ⟨h, ‹_›, ‹_›⟩

theorem IsWord.not_isNumeral (h : IsWord t) : ¬IsNumeral t := by
  intro hn
  obtain ⟨c, t, rfl⟩ := List.exists_cons_of_ne_nil h.1
  have := isNumeralChar_of_isWordChar (h.2 c (by simp))
  simp [hn.2 c (by simp)] at this

/-- What a text starts with: nothing but a gap up to its end, or a gap and then a token, or a gap
and then a numeral that names no finite number. -/
inductive Begins : List Char → Prop
  | finish {w : List Char} : EndGap w → Begins w
  | token {w t rest : List Char} {k : Token.Kind} :
      Gap w → Spells t k → Stops t rest → Begins (w ++ (t ++ rest))
  | malformed {w t rest : List Char} : Gap w → IsNumeral t → Binary64.ofNumeral? t = none →
      (∀ c ∈ rest.head?, isNumeralChar c = false) → Begins (w ++ (t ++ rest))

theorem Begins.prepend {w s : List Char} (h : Gap w) (hs : Begins s) : Begins (w ++ s) := by
  cases hs with
  | finish h' => exact .finish (h.endGap_append h')
  | token hw ht hr =>
      rw [← List.append_assoc]
      exact .token (h.append hw) ht hr
  | malformed hw ht hv hr =>
      rw [← List.append_assoc]
      exact .malformed (h.append hw) ht hv hr

theorem begins_of_not_gap (hb : isBlank c = false) (hc : c ≠ '#') (s : List Char) :
    Begins (c :: s) := by
  by_cases hw : isWordChar c = true
  · obtain ⟨t, rest, rfl, ht, hr⟩ := exists_span isWordChar s
    have hword : IsWord (c :: t) := ⟨by simp, List.forall_mem_cons.2 ⟨hw, ht⟩⟩
    exact .token .nil (spells_ofWord hword) ⟨fun _ => hr, fun hn => absurd hn hword.not_isNumeral⟩
  · by_cases hn : isNumeralChar c = true
    · obtain ⟨t, rest, rfl, ht, hr⟩ := exists_span isNumeralChar s
      have hnum : IsNumeral (c :: t) := ⟨by simp, List.forall_mem_cons.2 ⟨hn, ht⟩⟩
      cases hv : Binary64.ofNumeral? (c :: t) with
      | none => exact .malformed .nil hnum hv hr
      | some value =>
          exact .token .nil (.number hnum hv) ⟨fun h => absurd hnum h.not_isNumeral, fun _ => hr⟩
    · have hm : isMark c = true := isMark_iff.2 ⟨hb, by simpa using hw, by simpa using hn, hc⟩
      exact .token (t := [c]) .nil (.mark hm) (stops_mark hm s)

theorem begins (s : List Char) : Begins s := by
  induction hn : s.length using Nat.strongRecOn generalizing s with
  | ind n ih =>
      cases s with
      | nil => exact .finish (.gap .nil)
      | cons c s =>
          rw [List.length_cons] at hn
          by_cases hb : isBlank c = true
          · exact (ih s.length (by omega) s rfl).prepend (.blank hb .nil)
          by_cases hc : c = '#'
          swap
          · exact begins_of_not_gap (by simpa using hb) hc s
          -- a comment, which ends with its line or with the text
          subst hc
          obtain ⟨t, rest, rfl, ht, hr⟩ := exists_span (!isNewline ·) s
          have ht : ∀ c ∈ t, c ≠ '\n' := by simpa [isNewline] using ht
          cases rest with
          | nil =>
              rw [List.append_nil]
              exact .finish (.comment .nil ht)
          | cons d rest =>
              obtain rfl : d = '\n' := by simpa [isNewline] using hr
              rw [List.length_append, List.length_cons] at hn
              have := (ih rest.length (by omega) rest rfl).prepend (.comment ht .nil)
              simpa using this

end

/-! ### Stretches of several tokens -/

namespace Token.Stream

/-- More tokens in front. -/
def prepend (ts : List Token) (st : Stream) : Stream :=
  { st with body := ts ++ st.body }

/-- In front of this rest, and wherever it stands, the stretch is read as tokens of these kinds. -/
def Reads (t : List Char) (kinds : List Kind) (rest : List Char) : Prop :=
  ∀ l, ∃ ts : List Token, ts.map (·.kind) = kinds ∧
    scan l (t ++ rest) = (scan (l.after t) rest).map (prepend ts)

variable {c : Char} {s t w rest : List Char} {k : Kind} {kinds kinds' : List Kind}

theorem reads_gap (h : Gap w) (rest : List Char) : Reads w [] rest := by
  refine fun l => ⟨[], rfl, ?_⟩
  rw [scan_gap h]
  cases scan (l.after w) rest <;> rfl

theorem reads_spells (h : Spells t k) (hs : Stops t rest) : Reads t [k] rest :=
  fun l => ⟨[⟨k, l⟩], rfl, scan_spells h hs l⟩

theorem Reads.append (h : Reads s kinds (t ++ rest)) (h' : Reads t kinds' rest) :
    Reads (s ++ t) (kinds ++ kinds') rest := by
  intro l
  obtain ⟨ts, rfl, hs⟩ := h l
  obtain ⟨us, rfl, ht⟩ := h' (l.after s)
  refine ⟨ts ++ us, List.map_append, ?_⟩
  rw [List.append_assoc, hs, ht, Location.after_append]
  cases scan ((l.after s).after t) rest with
  | error e => rfl
  | ok st => simp [Except.map, prepend]

theorem reads_nil (rest : List Char) : Reads [] [] rest :=
  reads_gap .nil rest

theorem Reads.mark (h : Reads t kinds rest) (hc : isMark c = true) :
    Reads (c :: t) (.char c :: kinds) rest :=
  (reads_spells (.mark hc) (stops_mark hc _)).append h

theorem Reads.blank (h : Reads t kinds rest) (hc : isBlank c = true) :
    Reads (c :: t) kinds rest :=
  (reads_gap (.blank hc .nil) _).append h

/-- What is read up to the end of the text is all that the text gives. -/
theorem Reads.ofText_eq (h : Reads t kinds []) (hne : kinds ≠ []) (name : String) :
    ∃ st, ofText name t = .ok st ∧ st.body.map (·.kind) = kinds := by
  obtain ⟨ts, rfl, ht⟩ := h (.start name)
  rw [List.append_nil, scan_nil] at ht
  have htext : t ≠ [] := by
    rintro rfl
    rw [scan_nil] at ht
    have hbody := congrArg Stream.body (Except.ok.inj ht)
    simp only [prepend, List.append_nil] at hbody
    exact hne (by rw [← hbody]; rfl)
  rw [ofText_eq_scan htext]
  exact ⟨_, ht, by simp [prepend]⟩

/-- Stretches with the same stretch between any two. -/
theorem reads_intercalate {α : Type} {between : List Char} {mid : List Kind} {text : α → List Char}
    {kinds : α → List Kind} {items : List α} (hmid : ∀ rest, Reads between mid rest)
    (hgo : ∀ a ∈ items, ∀ more, Reads (text a) (kinds a) (between ++ more))
    (hlast : ∀ a ∈ items, Reads (text a) (kinds a) rest) :
    Reads (between.intercalate (items.map text)) (mid.intercalate (items.map kinds)) rest := by
  induction items with
  | nil => exact reads_nil rest
  | cons a items ih =>
      obtain ⟨hgoFirst, hgo⟩ := List.forall_mem_cons.1 hgo
      obtain ⟨hlastFirst, hlast⟩ := List.forall_mem_cons.1 hlast
      cases items with
      | nil => simpa using hlastFirst
      | cons b items =>
          simp only [List.map_cons, List.intercalate_cons_cons, List.append_assoc] at ih ⊢
          refine Reads.append ?_ ((hmid _).append (ih hgo hlast))
          simpa using hgoFirst _

end Token.Stream

end Kaleidoscope
