import Kaleidoscope.Proofs.LexicalFaults
import Kaleidoscope.Proofs.Rendering

/-!
Bytes that are not text. The bytes of a character bring the decoder back to where it has started
from (`finishes_utf8EncodeChar`), so what is behind a text is decoded by itself
(`decode_encode_append`). Between two texts a byte that no character starts with becomes a
replacement character. So do the first bytes of a character, since no text goes on with it: a text
does not start with a byte that goes on with a character (`head_encode`). A replacement character is
a mark, and a mark keeps apart what is on its two sides, so the damage stays where it is
(`ofBytes_damage`).
-/

namespace Kaleidoscope

namespace Utf8

/-- The bytes of a text. -/
def encode (s : List Char) : List UInt8 :=
  s.flatMap String.utf8EncodeChar

/-- A byte that can only go on with a character. -/
def Continues (byte : Nat) : Prop :=
  0x80 ≤ byte ∧ byte ≤ 0xBF

/-- A byte that no character starts with. -/
def Foreign (byte : Nat) : Prop :=
  Continues byte ∨ byte = 0xC0 ∨ byte = 0xC1 ∨ 0xF5 ≤ byte

/-- The bytes are those of the character from here on: all but the last leave it begun. -/
inductive Finishes (c : Char) : State → List UInt8 → Prop
  | last {s : State} {b : UInt8} : step s b.toNat = ([c], none) → Finishes c s [b]
  | more {s : State} {p : Partial} {b : UInt8} {bytes : List UInt8} :
      step s b.toNat = ([], some p) → Finishes c (some p) bytes → Finishes c s (b :: bytes)

variable {c : Char} {s : State} {p : Partial} {v byte : Nat} {bytes part rest : List UInt8}

/-! ### Steps -/

theorem begin_ascii (h : v < 0x80) : begin v = ([Char.ofNat v], none) :=
  if_pos h

theorem begin_two (h : 0x80 ≤ v) (h' : v < 0x800) :
    begin (v / 0x40 + 0xC0) = ([], some ⟨v / 0x40, 1, 0x80, 0xBF⟩) := by
  rw [begin, if_neg (by omega), if_pos (by omega), Nat.add_sub_cancel]

/-- The second of three bytes is in the range for it: the character needs three bytes and is no
surrogate. -/
theorem begin_three (h : 0x800 ≤ v) (h' : v < 0x10000) (hs : v < 0xD800 ∨ 0xDFFF < v) :
    ∃ low high, begin (v / 0x1000 + 0xE0) = ([], some ⟨v / 0x1000, 2, low, high⟩) ∧
      low ≤ v / 0x40 % 0x40 + 0x80 ∧ v / 0x40 % 0x40 + 0x80 ≤ high := by
  by_cases hfirst : v / 0x1000 = 0
  · exact ⟨0xA0, 0xBF, by rw [hfirst]; rfl, by omega, by omega⟩
  · by_cases hsurrogates : v / 0x1000 = 0xD
    · exact ⟨0x80, 0x9F, by rw [hsurrogates]; rfl, by omega, by omega⟩
    · refine ⟨0x80, 0xBF, ?_, by omega, by omega⟩
      rw [begin, if_neg (by omega), if_neg (by omega), if_neg (by omega), if_neg (by omega),
        if_pos (by omega), Nat.add_sub_cancel]

/-- The second of four bytes is in the range for it: the character needs four bytes and is not
behind the last one. -/
theorem begin_four (h : 0x10000 ≤ v) (h' : v < 0x110000) :
    ∃ low high, begin (v / 0x40000 + 0xF0) = ([], some ⟨v / 0x40000, 3, low, high⟩) ∧
      low ≤ v / 0x1000 % 0x40 + 0x80 ∧ v / 0x1000 % 0x40 + 0x80 ≤ high := by
  by_cases hfirst : v / 0x40000 = 0
  · exact ⟨0x90, 0xBF, by rw [hfirst]; rfl, by omega, by omega⟩
  · by_cases hlast : v / 0x40000 = 4
    · exact ⟨0x80, 0x8F, by rw [hlast]; rfl, by omega, by omega⟩
    · refine ⟨0x80, 0xBF, ?_, by omega, by omega⟩
      rw [begin, if_neg (by omega), if_neg (by omega), if_neg (by omega), if_neg (by omega),
        if_neg (by omega), if_neg (by omega), if_pos (by omega), Nat.add_sub_cancel]

theorem begin_foreign (h : Foreign byte) : begin byte = ([replacement], none) := by
  unfold Foreign Continues at h
  rw [begin, if_neg (by omega), if_neg (by omega), if_neg (by omega), if_neg (by omega),
    if_neg (by omega), if_neg (by omega), if_neg (by omega), if_neg (by omega)]

theorem step_more (hl : p.low ≤ v + 0x80) (hh : v + 0x80 ≤ p.high) (ho : 1 < p.owed) :
    step (some p) (v + 0x80) = ([], some ⟨p.payload * 0x40 + v, p.owed - 1, 0x80, 0xBF⟩) := by
  rw [step, if_pos ⟨hl, hh⟩, Partial.extend, if_neg (by omega), Nat.add_sub_cancel]

theorem step_last (hl : p.low ≤ v + 0x80) (hh : v + 0x80 ≤ p.high) (ho : p.owed ≤ 1) :
    step (some p) (v + 0x80) = ([Char.ofNat (p.payload * 0x40 + v)], none) := by
  rw [step, if_pos ⟨hl, hh⟩, Partial.extend, if_pos ho, Nat.add_sub_cancel]

/-! ### Characters -/

theorem toNat_byte (h : v < 0x100) : (UInt8.ofNat v).toNat = v := by
  rw [UInt8.toNat_ofNat']
  exact Nat.mod_eq_of_lt h

theorem Finishes.last_of (hl : p.low ≤ v % 0x40 + 0x80) (hh : v % 0x40 + 0x80 ≤ p.high)
    (ho : p.owed ≤ 1) (hv : p.payload * 0x40 + v % 0x40 = c.toNat) :
    Finishes c (some p) [UInt8.ofNat (v % 0x40 + 0x80)] := by
  refine .last ?_
  rw [toNat_byte (by omega), step_last hl hh ho, hv, Char.ofNat_toNat]

theorem Finishes.more_of (hl : p.low ≤ v % 0x40 + 0x80) (hh : v % 0x40 + 0x80 ≤ p.high)
    (ho : 1 < p.owed)
    (h : Finishes c (some ⟨p.payload * 0x40 + v % 0x40, p.owed - 1, 0x80, 0xBF⟩) bytes) :
    Finishes c (some p) (UInt8.ofNat (v % 0x40 + 0x80) :: bytes) := by
  refine .more ?_ h
  rw [toNat_byte (by omega), step_more hl hh ho]

theorem finishes_one (h : v < 0x80) (hc : c.toNat = v) : Finishes c none [UInt8.ofNat v] := by
  refine .last ?_
  rw [toNat_byte (by omega), step, begin_ascii h, ← hc, Char.ofNat_toNat]

theorem finishes_two (h : 0x80 ≤ v) (h' : v < 0x800) (hc : c.toNat = v) : Finishes c none
    [UInt8.ofNat (v / 0x40 % 0x20 + 0xC0), UInt8.ofNat (v % 0x40 + 0x80)] := by
  have hlead : v / 0x40 % 0x20 = v / 0x40 := Nat.mod_eq_of_lt (by omega)
  refine .more (p := ⟨v / 0x40, 1, 0x80, 0xBF⟩) ?_ (.last_of ?_ ?_ ?_ ?_)
  · rw [hlead, toNat_byte (by omega), step, begin_two h h']
  all_goals simp only; omega

theorem finishes_three (h : 0x800 ≤ v) (h' : v < 0x10000) (hs : v < 0xD800 ∨ 0xDFFF < v)
    (hc : c.toNat = v) : Finishes c none
      [UInt8.ofNat (v / 0x1000 % 0x10 + 0xE0), UInt8.ofNat (v / 0x40 % 0x40 + 0x80),
        UInt8.ofNat (v % 0x40 + 0x80)] := by
  have hlead : v / 0x1000 % 0x10 = v / 0x1000 := Nat.mod_eq_of_lt (by omega)
  obtain ⟨low, high, hbegin, hl, hh⟩ := begin_three h h' hs
  refine .more (p := ⟨v / 0x1000, 2, low, high⟩) ?_
    (.more_of hl hh (by simp) (.last_of ?_ ?_ ?_ ?_))
  · rw [hlead, toNat_byte (by omega), step, hbegin]
  all_goals simp only; omega

theorem finishes_four (h : 0x10000 ≤ v) (h' : v < 0x110000) (hc : c.toNat = v) :
    Finishes c none
      [UInt8.ofNat (v / 0x40000 % 0x08 + 0xF0), UInt8.ofNat (v / 0x1000 % 0x40 + 0x80),
        UInt8.ofNat (v / 0x40 % 0x40 + 0x80), UInt8.ofNat (v % 0x40 + 0x80)] := by
  have hlead : v / 0x40000 % 0x08 = v / 0x40000 := Nat.mod_eq_of_lt (by omega)
  obtain ⟨low, high, hbegin, hl, hh⟩ := begin_four h h'
  refine .more (p := ⟨v / 0x40000, 3, low, high⟩) ?_
    (.more_of hl hh (by simp) (.more_of ?_ ?_ ?_ (.last_of ?_ ?_ ?_ ?_)))
  · rw [hlead, toNat_byte (by omega), step, hbegin]
  all_goals simp only; omega

theorem finishes_utf8EncodeChar (c : Char) : Finishes c none (String.utf8EncodeChar c) := by
  have hvalid : c.val.toNat < 0xD800 ∨ 0xDFFF < c.val.toNat ∧ c.val.toNat < 0x110000 := c.valid
  have hc : c.toNat = c.val.toNat := rfl
  unfold String.utf8EncodeChar
  generalize c.val.toNat = v at hvalid hc
  dsimp only
  split
  · exact finishes_one (by omega) hc
  · split
    · exact finishes_two (by omega) (by omega) hc
    · split
      · exact finishes_three (by omega) (by omega) (by omega) hc
      · exact finishes_four (by omega) (by omega) hc

/-! ### Texts -/

theorem Finishes.decodeFrom_append (h : Finishes c s bytes) (rest : List UInt8) :
    decodeFrom s (bytes ++ rest) = c :: decode rest := by
  induction h with
  | last hb => simp [decodeFrom, hb, decode]
  | more hb _ ih => simp [decodeFrom, hb, ih]

theorem decode_encode_append (s : List Char) (rest : List UInt8) :
    decode (encode s ++ rest) = s ++ decode rest := by
  induction s with
  | nil => rfl
  | cons c s ih =>
      rw [encode, List.flatMap_cons, ← encode, List.append_assoc, decode,
        (finishes_utf8EncodeChar c).decodeFrom_append, ih, List.cons_append]

/-- What the bytes of a text decode to is the text. -/
theorem decode_encode (s : List Char) : decode (encode s) = s := by
  have h := decode_encode_append s []
  rwa [List.append_nil, show decode [] = [] from rfl, List.append_nil] at h

theorem decode_foreign (h : ∀ b ∈ bytes, Foreign b.toNat) (rest : List UInt8) :
    decode (bytes ++ rest) = List.replicate bytes.length replacement ++ decode rest := by
  induction bytes with
  | nil => rfl
  | cons b bytes ih =>
      obtain ⟨hb, h⟩ := List.forall_mem_cons.1 h
      rw [List.cons_append, decode, decodeFrom, step, begin_foreign hb, ← decode, ih h]
      rfl

/-! ### Characters that are not completed -/

/-- The next byte of a character that is begun is one that goes on with a character. -/
def State.Narrow (s : State) : Prop :=
  ∀ p ∈ s, ∀ byte, p.low ≤ byte → byte ≤ p.high → Continues byte

theorem narrow_of {p : Partial} (hl : 0x80 ≤ p.low) (hh : p.high ≤ 0xBF) :
    State.Narrow (some p) := by
  rintro _ ⟨⟩ byte hlow hhigh
  exact ⟨Nat.le_trans hl hlow, Nat.le_trans hhigh hh⟩

theorem narrow_none : State.Narrow none := nofun

theorem narrow_begin (byte : Nat) : (begin byte).2.Narrow := by
  unfold begin
  repeat' split
  all_goals first | exact narrow_none | exact narrow_of (by simp) (by simp)

theorem narrow_step (s : State) (byte : Nat) : (step s byte).2.Narrow := by
  cases s with
  | none => exact narrow_begin byte
  | some p =>
      rw [step]
      split
      · unfold Partial.extend
        split
        · exact narrow_none
        · exact narrow_of (by simp) (by simp)
      · exact narrow_begin byte

/-- A byte that goes on with no character ends the one that was begun. -/
theorem decodeFrom_interrupted (hs : State.Narrow (some p))
    (h : ∀ b ∈ rest.head?, ¬Continues b.toNat) :
    decodeFrom (some p) rest = replacement :: decode rest := by
  cases rest with
  | nil => rfl
  | cons b rest =>
      have hout : ¬(p.low ≤ b.toNat ∧ b.toNat ≤ p.high) :=
        fun hin => h b rfl (hs p rfl _ hin.1 hin.2)
      rw [decodeFrom, step, if_neg hout]
      rfl

theorem Finishes.decodeFrom_part (h : Finishes c s bytes) (hp : part <+: bytes)
    (hne : part ≠ []) (hne' : part ≠ bytes) (hr : ∀ b ∈ rest.head?, ¬Continues b.toNat) :
    decodeFrom s (part ++ rest) = replacement :: decode rest := by
  induction h generalizing part with
  | last _ =>
      obtain ⟨b, part, rfl⟩ := List.exists_cons_of_ne_nil hne
      obtain ⟨rfl, hnil⟩ := List.cons_prefix_cons.1 hp
      obtain rfl := List.prefix_nil.1 hnil
      contradiction
  | @more s p _ bytes hb _ ih =>
      obtain ⟨b, part, rfl⟩ := List.exists_cons_of_ne_nil hne
      obtain ⟨rfl, hmore⟩ := List.cons_prefix_cons.1 hp
      rw [List.cons_append, decodeFrom, hb, List.nil_append]
      by_cases hpart : part = []
      · subst hpart
        have hs : State.Narrow (some p) := by
          have := narrow_step s b.toNat
          rwa [hb] at this
        exact decodeFrom_interrupted hs hr
      · exact ih hmore hpart fun heq => hne' (congrArg (b :: ·) heq)

theorem head_utf8EncodeChar (c : Char) :
    ∀ b ∈ (String.utf8EncodeChar c).head?, ¬Continues b.toNat := by
  have hvalid : c.val.toNat < 0xD800 ∨ 0xDFFF < c.val.toNat ∧ c.val.toNat < 0x110000 := c.valid
  unfold String.utf8EncodeChar Continues
  generalize c.val.toNat = v at hvalid
  dsimp only
  repeat' split
  all_goals
    rintro _ ⟨⟩
    rw [toNat_byte (by omega)]
    omega

theorem head_encode (s : List Char) : ∀ b ∈ (encode s).head?, ¬Continues b.toNat := by
  cases s with
  | nil => simp [encode]
  | cons c s =>
      have hc := head_utf8EncodeChar c
      rw [encode, List.flatMap_cons]
      cases hbytes : String.utf8EncodeChar c with
      | nil => exact absurd hbytes String.utf8EncodeChar_ne_nil
      | cons b bytes => simpa [hbytes] using hc

/-! ### Damage -/

/-- Bytes that are no text, and how many damaged pieces they are: bytes that no character starts
with, each of them a piece, or some of the first bytes of a character, which are one piece. -/
inductive Damage : List UInt8 → Nat → Prop
  | foreign {bytes : List UInt8} : (∀ b ∈ bytes, Foreign b.toNat) → Damage bytes bytes.length
  | truncated {c : Char} {part : List UInt8} : part ≠ [] → part <+: String.utf8EncodeChar c →
      part ≠ String.utf8EncodeChar c → Damage part 1

theorem Damage.ne_zero {k : Nat} (h : Damage bytes k) (hne : bytes ≠ []) : k ≠ 0 := by
  cases h with
  | foreign _ => exact fun hk => hne (List.length_eq_zero_iff.1 hk)
  | truncated => exact one_ne_zero

/-- Damage between two texts is replaced, piece by piece, and the texts are as they were. -/
theorem decode_damage {k : Nat} (h : Damage bytes k) (s t : List Char) :
    decode (encode s ++ bytes ++ encode t) = s ++ List.replicate k replacement ++ t := by
  rw [List.append_assoc, decode_encode_append, List.append_assoc]
  congr 1
  cases h with
  | foreign h => rw [decode_foreign h, decode_encode]
  | truncated hne hp hne' =>
      have hpart := (finishes_utf8EncodeChar _).decodeFrom_part hp hne hne' (head_encode t)
      rw [decode, hpart, decode_encode]
      rfl

end Utf8

namespace Token.Stream

open Utf8

variable {c : Char} {name : String} {s t rest : List Char} {st : Stream}

/-- Which kinds of token a text has does not depend on where it stands. -/
theorem ofLexemes_kinds {l : Location} {lexemes : List Lexeme} (h : ofLexemes l lexemes = .ok st)
    (l' : Location) : ∃ ts : List Token, ts.map (·.kind) = st.body.map (·.kind) ∧
      ofLexemes l' lexemes = .ok ⟨ts, l'.after (lexemes.flatMap Lexeme.text)⟩ := by
  induction lexemes generalizing l l' st with
  | nil =>
      obtain rfl := Except.ok.inj h
      exact ⟨[], rfl, rfl⟩
  | cons x lexemes ih =>
      rw [ofLexemes] at h
      rw [ofLexemes, List.flatMap_cons, Location.after_append]
      cases hx : x.kind with
      | error fault => simp [hx] at h
      | ok kind =>
          rw [hx] at h
          cases kind with
          | none => exact ih h (l'.after x.text)
          | some kind =>
              cases hmore : ofLexemes (l.after x.text) lexemes with
              | error d =>
                  rw [hmore] at h
                  contradiction
              | ok st' =>
                  rw [hmore] at h
                  obtain rfl := Except.ok.inj h
                  obtain ⟨ts, hts, hmore'⟩ := ih hmore (l'.after x.text)
                  refine ⟨⟨kind, l'⟩ :: ts, by simp [hts, Stream.cons], ?_⟩
                  simp only [hmore']
                  rfl

theorem scan_kinds (h : ofText name s = .ok st) (l : Location) :
    ∃ ts : List Token, ts.map (·.kind) = st.body.map (·.kind) ∧
      scan l s = .ok ⟨ts, l.after s⟩ := by
  obtain ⟨ts, hts, hscan⟩ := ofLexemes_kinds (scan_of_ofText h) l
  rw [Lexeme.flatten_cut] at hscan
  exact ⟨ts, hts, hscan⟩

theorem reads_of_boundary (h : ofText name s = .ok st) (hb : Boundary s rest) :
    Reads s (st.body.map (·.kind)) rest := by
  intro l
  obtain ⟨ts, hts, hscan⟩ := scan_kinds h l
  refine ⟨ts, hts, ?_⟩
  rw [scan_append hb, hscan]
  rfl

/-- Whatever the text ends with, also a comment. -/
theorem reads_to_end (h : ofText name s = .ok st) : Reads s (st.body.map (·.kind)) [] := by
  intro l
  obtain ⟨ts, hts, hscan⟩ := scan_kinds h l
  refine ⟨ts, hts, ?_⟩
  rw [List.append_nil, hscan, scan_nil]
  simp [Except.map, prepend]

theorem reads_marks (hc : isMark c = true) (k : Nat) (rest : List Char) :
    Reads (List.replicate k c) (List.replicate k (.char c)) rest := by
  induction k with
  | zero => exact reads_nil rest
  | succ k ih => exact ih.mark hc

/-- A mark goes on with nothing but a comment. -/
theorem boundary_mark (hs : '#' ∉ s.rtakeWhile (· ≠ '\n')) (hc : isMark c = true) :
    Boundary s (c :: rest) := by
  obtain ⟨-, hword, hnumeral, -⟩ := isMark_iff.1 hc
  exact ⟨uncommented_iff.2 hs, by simp [hword], by simp [hnumeral]⟩

theorem isMark_replacement : isMark replacement = true := by
  decide

/-- Damage separates what stands on its two sides. -/
theorem reads_damage {st' : Stream} {k : Nat} (h : ofText name s = .ok st)
    (h' : ofText name t = .ok st') (hs : '#' ∉ s.rtakeWhile (· ≠ '\n')) :
    Reads (s ++ List.replicate (k + 1) replacement ++ t) (st.body.map (·.kind) ++
      List.replicate (k + 1) (.char replacement) ++ st'.body.map (·.kind)) [] := by
  have hmarks := (reads_marks isMark_replacement (k + 1) _).append (reads_to_end h')
  have hb : Boundary s (List.replicate (k + 1) replacement ++ t ++ []) :=
    boundary_mark hs isMark_replacement
  have hreads := (reads_of_boundary h hb).append hmarks
  rwa [← List.append_assoc, ← List.append_assoc] at hreads

/-- Bytes that are no text are no fault. The bytes of a text give its tokens. Damage between two
texts is read as replacement characters, one for each damaged piece, and if there is any and it
does not stand in a comment, it leaves the tokens of both texts as they are. -/
theorem ofBytes_damage (name : String) :
    (∀ s : List Char, ofBytes name (encode s) = ofText name s) ∧
    ∀ (s t : List Char) (bytes : List UInt8) (k : Nat), Damage bytes k →
      ofBytes name (encode s ++ bytes ++ encode t) =
        ofText name (s ++ List.replicate k '\uFFFD' ++ t) ∧
      ∀ st st' : Stream, ofText name s = .ok st → ofText name t = .ok st' →
        '#' ∉ s.rtakeWhile (· ≠ '\n') → bytes ≠ [] →
        ∃ whole, ofBytes name (encode s ++ bytes ++ encode t) = .ok whole ∧
          whole.toList.map (·.kind) = st.body.map (·.kind) ++
            List.replicate k (.char '\uFFFD') ++ st'.toList.map (·.kind) := by
  refine ⟨fun s => by rw [ofBytes, decode_encode], fun s t bytes k hd => ?_⟩
  have hbytes : ofBytes name (encode s ++ bytes ++ encode t) =
      ofText name (s ++ List.replicate k replacement ++ t) := by
    rw [ofBytes, decode_damage hd]
  refine ⟨hbytes, fun st st' h h' hs hne => ?_⟩
  obtain ⟨k, rfl⟩ := Nat.exists_eq_succ_of_ne_zero (hd.ne_zero hne)
  obtain ⟨whole, hwhole, hkinds⟩ := (reads_damage h h' hs).ofText_eq (by simp) name
  refine ⟨whole, hbytes.trans hwhole, ?_⟩
  rw [toList, toList, List.map_append, hkinds, List.map_append, ← List.append_assoc]
  rfl

/-- A text that is one word. -/
theorem ofText_word (name : String) (h : IsWord s) :
    ofText name s = .ok ⟨[⟨.ofWord s, .start name⟩], (Location.start name).after s⟩ := by
  have hscan : scan (.start name) (s ++ []) = _ := scan_word h (by simp)
  rw [List.append_nil, scan_nil] at hscan
  rw [ofText_eq_scan h.1, hscan]
  rfl

/-- Two of the three bytes of a character between two words. -/
theorem ofBytes_damage_between_words : Damage [0xE2, 0x82] 1 ∧
    (∃ st st', ofText "" ['x'] = .ok st ∧ ofText "" ['y'] = .ok st') ∧
    '#' ∉ ['x'].rtakeWhile (· ≠ '\n') ∧ ([0xE2, 0x82] : List UInt8) ≠ [] ∧
    ofBytes "" (encode ['x'] ++ [0xE2, 0x82] ++ encode ['y']) = ofText "" ['x', '\uFFFD', 'y'] ∧
    ∃ whole, ofBytes "" (encode ['x'] ++ [0xE2, 0x82] ++ encode ['y']) = .ok whole ∧
      whole.toList.map (·.kind) =
        [.identifier "x", .char '\uFFFD', .identifier "y", .endOfInput] := by
  have hd : Damage [0xE2, 0x82] 1 := .truncated (c := '€') (by decide) (by decide) (by decide)
  have hx := ofText_word (s := ['x']) "" (by decide)
  have hy := ofText_word (s := ['y']) "" (by decide)
  have hline : '#' ∉ ['x'].rtakeWhile (· ≠ '\n') := by decide
  have hne : ([0xE2, 0x82] : List UInt8) ≠ [] := by decide
  obtain ⟨hbytes, hkinds⟩ := (ofBytes_damage "").2 ['x'] ['y'] _ 1 hd
  exact ⟨hd, ⟨_, _, hx, hy⟩, hline, hne, hbytes, hkinds _ _ hx hy hline hne⟩

/-- Nothing at all between two words does not separate them. -/
theorem ofBytes_without_damage : Damage [] 0 ∧
    (∃ st st', ofText "" ['x'] = .ok st ∧ ofText "" ['y'] = .ok st' ∧
      '#' ∉ ['x'].rtakeWhile (· ≠ '\n') ∧
      ∃ whole, ofBytes "" (encode ['x'] ++ [] ++ encode ['y']) = .ok whole ∧
        whole.toList.map (·.kind) = [.identifier "xy", .endOfInput] ∧
        whole.toList.map (·.kind) ≠ st.body.map (·.kind) ++
          List.replicate 0 (.char '\uFFFD') ++ st'.toList.map (·.kind)) := by
  have hx := ofText_word (s := ['x']) "" (by decide)
  have hy := ofText_word (s := ['y']) "" (by decide)
  have hxy := ofText_word (s := ['x', 'y']) "" (by decide)
  refine ⟨.foreign nofun, _, _, hx, hy, by decide, _, hxy, rfl, fun h => ?_⟩
  exact absurd (congrArg List.length h) (by decide)

end Token.Stream

end Kaleidoscope
