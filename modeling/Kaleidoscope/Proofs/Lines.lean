import Kaleidoscope.Proofs.Pieces

/-!
A newline separates whatever stands on its two sides. In a text it ends the gap, the word, the
numeral or the comment in front of it, and behind it reading starts afresh, only further down
(`scan_newline`, `scan_down`). Among bytes it ends the character in front of it, complete or not
(`decode_newline`), and nothing but the byte of a newline decodes to one (`count_decode`). So the
tokens of two texts with a newline between them are those of the first and then those of the
second, and the first fault is the fault of the whole (`readings_newline`).
-/

namespace Kaleidoscope

/-- The same column, so many lines further down. -/
def Location.down (l : Location) (lines : Nat) : Location :=
  { l with line := l.line + lines }

def Diagnostic.down {κ : Type} (d : Diagnostic κ) (lines : Nat) : Diagnostic κ :=
  { d with location := d.location.down lines }

def Token.down (t : Token) (lines : Nat) : Token :=
  { t with location := t.location.down lines }

namespace Location

variable {l : Location} {lines : Nat}

theorem step_down (c : Char) : (l.down lines).step c = (l.step c).down lines := by
  unfold step down
  split
  · rw [Nat.add_right_comm]
  · rfl

theorem after_down (s : List Char) : (l.down lines).after s = (l.after s).down lines := by
  induction s generalizing l with
  | nil => rfl
  | cons c s ih => rw [after_cons, after_cons, step_down, ih]

/-- Behind a text and a newline a line starts like the first one. -/
theorem start_down (name : String) (s : List Char) :
    ((start name).after s).step '\n' = (start name).down (s.count '\n' + 1) := by
  rw [← behind_nil, after_behind, step_behind]
  simp [behind, down, Nat.add_comm]

end Location

/-! ### Texts -/

namespace Token.Stream

def down (st : Stream) (lines : Nat) : Stream :=
  ⟨st.body.map (·.down lines), st.finish.down lines⟩

/-- What reading a text gives if the text stands so many lines further down. -/
def lowered (lines : Nat) :
    Except (Diagnostic LexicalFault) Stream → Except (Diagnostic LexicalFault) Stream
  | .error d => .error (d.down lines)
  | .ok st => .ok (st.down lines)

/-- What reading a text gives if another one stands below it, so many lines further down: the
first fault, or the tokens of both. -/
def stacked (lines : Nat) : (above below : Except (Diagnostic LexicalFault) Stream) →
    Except (Diagnostic LexicalFault) Stream
  | .error d, _ => .error d
  | .ok _, .error d => .error (d.down lines)
  | .ok above, .ok below => .ok ((below.down lines).prepend above.body)

variable {l : Location} {lines : Nat} {s t rest : List Char}

theorem ofLexemes_down (lexemes : List Lexeme) :
    ofLexemes (l.down lines) lexemes = lowered lines (ofLexemes l lexemes) := by
  induction lexemes generalizing l with
  | nil => rfl
  | cons lexeme lexemes ih =>
      rw [ofLexemes, ofLexemes, Location.after_down, ih]
      cases lexeme.kind with
      | error fault => rfl
      | ok kind =>
          cases kind with
          | none => rfl
          | some kind => cases ofLexemes (l.after lexeme.text) lexemes <;> rfl

/-- Reading does not depend on the line. -/
theorem scan_down (s : List Char) : scan (l.down lines) s = lowered lines (scan l s) :=
  ofLexemes_down _

theorem head_append_newline {p : Char → Bool} (h : ∀ c ∈ s.head?, p c = false)
    (hn : p '\n' = false) (t : List Char) : ∀ c ∈ (s ++ '\n' :: t).head?, p c = false := by
  cases s with
  | nil => simpa using hn
  | cons c s => exact h

theorem stops_append_newline (h : Stops t rest) (s : List Char) :
    Stops t (rest ++ '\n' :: s) :=
  ⟨fun ht => head_append_newline (h.1 ht) rfl s, fun ht => head_append_newline (h.2 ht) rfl s⟩

theorem scan_endGap_newline {w : List Char} (h : EndGap w) (l : Location) (s : List Char) :
    scan l (w ++ '\n' :: s) = scan ((l.after w).step '\n') s := by
  cases h with
  | gap h => rw [scan_gap h, scan_blank rfl]
  | @comment w t h ht =>
      rw [List.append_assoc, scan_gap h, scan_comment ht (by simp), scan_blank rfl,
        Location.after_append]

/-- Behind a newline reading goes on as if nothing had been in front, unless there was a fault. -/
theorem scan_newline (l : Location) (s t : List Char) : scan l (s ++ '\n' :: t) =
    (scan l s).bind fun st => (scan ((l.after s).step '\n') t).map (prepend st.body) := by
  induction hn : s.length using Nat.strongRecOn generalizing s l with
  | ind n ih =>
      cases begins s with
      | finish he =>
          rw [scan_endGap_newline he, scan_endGap he]
          cases scan ((l.after s).step '\n') t <;> rfl
      | @token w u rest k hw hu hs =>
          have hpos := List.length_pos_iff.2 hu.ne_nil
          simp only [List.length_append] at hn
          rw [List.append_assoc, scan_gap hw, List.append_assoc,
            scan_spells hu (stops_append_newline hs t), ih rest.length (by omega) _ rest rfl,
            scan_gap hw, scan_spells hu hs, Location.after_append, Location.after_append]
          cases scan ((l.after w).after u) rest with
          | error d => rfl
          | ok st => cases scan ((((l.after w).after u).after rest).step '\n') t <;> rfl
      | malformed hw hu hv hr =>
          rw [List.append_assoc, scan_gap hw, List.append_assoc,
            scan_malformed hu hv (head_append_newline hr rfl t), scan_gap hw,
            scan_malformed hu hv hr]
          rfl

theorem ofText_newline (name : String) {s t : List Char} (hs : s ≠ []) (ht : t ≠ []) :
    ofText name (s ++ '\n' :: t) =
      stacked (s.count '\n' + 1) (ofText name s) (ofText name t) := by
  rw [ofText_eq_scan (by simp), ofText_eq_scan hs, ofText_eq_scan ht, scan_newline,
    Location.start_down, scan_down]
  cases scan (.start name) s with
  | error d => rfl
  | ok st => cases scan (.start name) t <;> rfl

end Token.Stream

/-! ### Bytes -/

namespace Utf8

/-- Within a character no newline goes on, and none comes out at its end. -/
def Inside (p : Partial) : Prop :=
  0x80 ≤ p.low ∧ (0 < p.payload ∨ 0x90 ≤ p.low)

theorem inside_mk {payload owed low high : Nat} : Inside ⟨payload, owed, low, high⟩ ↔
    0x80 ≤ low ∧ (0 < payload ∨ 0x90 ≤ low) := Iff.rfl

/-- In every state that the decoder comes to. -/
def State.Sound (s : State) : Prop :=
  ∀ p ∈ s, Inside p

variable {s : State} {p : Partial} {byte : Nat} {bytes : List UInt8}

theorem ofNat_eq_newline_iff {n : Nat} : Char.ofNat n = '\n' ↔ n = 0x0A := by
  constructor
  · intro h
    by_cases hn : n.isValidChar
    · have hc : Char.ofNatAux n hn = '\n' := (dif_pos hn).symm.trans h
      exact congrArg Char.toNat hc
    · exact absurd ((dif_neg hn).symm.trans h) (by decide)
  · rintro rfl
    rfl

/-- What reading a byte can do: it gives a newline only for the byte of one, and it gives a
character unless one is begun. -/
structure Steps (byte : Nat) (r : List Char × State) : Prop where
  sound : r.2.Sound
  count : r.1.count '\n' = if byte = 0x0A then 1 else 0
  gives : r.1 = [] → r.2 ≠ none

theorem steps_inside (hp : Inside p) (hb : byte ≠ 0x0A) : Steps byte ([], some p) where
  sound := by simpa [State.Sound] using hp
  count := (if_neg hb).symm
  gives := fun _ => Option.some_ne_none p

theorem steps_char {c : Char} (hc : c = '\n' ↔ byte = 0x0A) : Steps byte ([c], none) where
  sound := nofun
  count := by simp [List.count_singleton, hc]
  gives := nofun

theorem steps_begin (byte : Nat) : Steps byte (begin byte) := by
  unfold begin
  by_cases hascii : byte < 0x80
  · rw [if_pos hascii]
    exact steps_char ofNat_eq_newline_iff
  · have hb : byte ≠ 0x0A := by omega
    rw [if_neg hascii]
    repeat' split
    case isFalse => exact steps_char (by simp [hb, replacement])
    all_goals exact steps_inside (inside_mk.2 (by omega)) hb

theorem steps_extend (hp : Inside p) (hlow : p.low ≤ byte) : Steps byte (p.extend byte) := by
  unfold Inside at hp
  unfold Partial.extend
  split
  · refine steps_char ?_
    rw [ofNat_eq_newline_iff]
    omega
  · exact steps_inside (inside_mk.2 (by omega)) (by omega)

theorem steps_step (hs : s.Sound) (byte : Nat) : Steps byte (step s byte) := by
  cases s with
  | none => exact steps_begin byte
  | some p =>
      rw [step]
      split
      · rename_i hrange
        exact steps_extend (hs p rfl) hrange.1
      · have h := steps_begin byte
        exact ⟨h.sound, by rw [List.count_cons_of_ne (by decide), h.count], nofun⟩

theorem sound_none : State.Sound none := nofun

theorem sound_advance (hs : s.Sound) (bytes : List UInt8) : State.Sound (advance s bytes) := by
  induction bytes generalizing s with
  | nil => exact hs
  | cons b bytes ih => exact ih (steps_step hs _).sound

theorem count_decodeFrom (hs : s.Sound) (bytes : List UInt8) :
    (decodeFrom s bytes).count '\n' = bytes.count 0x0A := by
  induction bytes generalizing s with
  | nil => cases s <;> rfl
  | cons b bytes ih =>
      have h := steps_step hs b.toNat
      rw [decodeFrom, List.count_append, h.count, ih h.sound, List.count_cons, Nat.add_comm]
      congr 1
      simp [← UInt8.toNat_inj]

/-- Nothing but the byte of a newline decodes to one. -/
theorem count_decode (bytes : List UInt8) : (decode bytes).count '\n' = bytes.count 0x0A :=
  count_decodeFrom sound_none bytes

theorem decodeFrom_ne_nil (hs : s.Sound) (h : s ≠ none ∨ bytes ≠ []) :
    decodeFrom s bytes ≠ [] := by
  induction bytes generalizing s with
  | nil =>
      cases s with
      | none => simp at h
      | some p => exact List.cons_ne_nil _ _
  | cons b bytes ih =>
      have h := steps_step hs b.toNat
      rw [decodeFrom]
      intro hnil
      obtain ⟨hfirst, hrest⟩ := List.append_eq_nil_iff.1 hnil
      exact ih h.sound (.inl (h.gives hfirst)) hrest

theorem decode_ne_nil (h : bytes ≠ []) : decode bytes ≠ [] :=
  decodeFrom_ne_nil sound_none (.inr h)

/-- A newline ends what has been begun of a character. -/
theorem decodeFrom_newline (hs : s.Sound) (bytes : List UInt8) :
    decodeFrom s (0x0A :: bytes) = flush s ++ '\n' :: decode bytes := by
  cases s with
  | none => rfl
  | some p =>
      have hout : ¬(p.low ≤ 0x0A ∧ 0x0A ≤ p.high) := by
        have := (hs p rfl).1
        omega
      have hstep : step (some p) 0x0A = ([replacement, '\n'], none) := if_neg hout
      exact congrArg (fun r => r.1 ++ decodeFrom r.2 bytes) hstep

theorem decode_newline (a b : List UInt8) :
    decode (a ++ 0x0A :: b) = decode a ++ '\n' :: decode b := by
  have hend : decode a = completed none a ++ flush (advance none a) := by
    have := decodeFrom_append none a []
    rwa [List.append_nil] at this
  rw [decode, decodeFrom_append, decodeFrom_newline (sound_advance sound_none a), hend,
    List.append_assoc]

end Utf8

namespace Token.Stream

/-- Two texts with a newline between them are read as the one above the other, also where they are
given as bytes: what is wrong with the end of the first does not go on behind the newline. -/
theorem readings_newline (name : String) :
    (∀ s t : List Char, s ≠ [] → t ≠ [] → ofText name (s ++ '\n' :: t) =
      stacked (s.count '\n' + 1) (ofText name s) (ofText name t)) ∧
    (∀ a b : List UInt8, a ≠ [] → b ≠ [] → ofBytes name (a ++ 0x0A :: b) =
      stacked (a.count 0x0A + 1) (ofBytes name a) (ofBytes name b)) ∧
    ∀ a b : List UInt8, Utf8.decode (a ++ 0x0A :: b) = Utf8.decode a ++ '\n' :: Utf8.decode b := by
  refine ⟨fun s t hs ht => ofText_newline name hs ht, fun a b ha hb => ?_, Utf8.decode_newline⟩
  rw [ofBytes, Utf8.decode_newline,
    ofText_newline name (Utf8.decode_ne_nil ha) (Utf8.decode_ne_nil hb), Utf8.count_decode]
  rfl

/-- A comment, and a character that lacks its last byte. The newline behind it ends either. -/
theorem readings_newline_unfinished :
    (['#', 'x'] ≠ [] ∧ ['y'] ≠ [] ∧ ofText "" ['#', 'x', '\n', 'y'] =
      stacked 1 (ofText "" ['#', 'x']) (ofText "" ['y'])) ∧
    ([0xE2, 0x82] : List UInt8) ≠ [] ∧ ([0x79] : List UInt8) ≠ [] ∧
      ofBytes "" [0xE2, 0x82, 0x0A, 0x79] =
        stacked 1 (ofBytes "" [0xE2, 0x82]) (ofBytes "" [0x79]) ∧
      Utf8.decode [0xE2, 0x82, 0x0A, 0x79] = [Utf8.replacement, '\n', 'y'] := by
  obtain ⟨htext, hbytes, hdecode⟩ := readings_newline ""
  exact ⟨⟨by simp, by simp, htext ['#', 'x'] ['y'] (by simp) (by simp)⟩, by simp, by simp,
    hbytes [0xE2, 0x82] [0x79] (by simp) (by simp), hdecode [0xE2, 0x82] [0x79]⟩

end Token.Stream

end Kaleidoscope
