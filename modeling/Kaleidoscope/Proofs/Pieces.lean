import Kaleidoscope.Proofs.Scanning
import Mathlib.Data.List.Chain
import Mathlib.Data.List.DropRight

/-!
The tokens of a text are found by cutting it into pieces, each a gap and the text of one token,
where two words or two numerals in a row do not touch. There is at most one such way to cut it,
since no token could have been longer, and `ofText` succeeds exactly where there is one
(`ofText_eq_ok_iff`).
-/

namespace Kaleidoscope

/-- The place behind a stretch of a text, which starts on line one in column one: a newline opens
the next line, and the characters of the last line take a column each. -/
def Location.behind (name : String) (before : List Char) : Location :=
  ⟨name, before.count '\n' + 1, (before.rtakeWhile (· ≠ '\n')).length + 1⟩

namespace Location

@[simp] theorem behind_nil (name : String) : behind name [] = start name := rfl

theorem step_behind (name : String) (before : List Char) (c : Char) :
    (behind name before).step c = behind name (before ++ [c]) := by
  by_cases hc : c = '\n'
  · subst hc
    simp [step, behind]
  · simp [step, behind, hc]

theorem after_behind (name : String) (before s : List Char) :
    (behind name before).after s = behind name (before ++ s) := by
  induction s generalizing before with
  | nil => simp
  | cons c s ih => simp [step_behind, ih]

end Location

/-- A token with the gap in front of it. -/
structure Piece where
  gap : List Char
  text : List Char
  kind : Token.Kind

namespace Piece

def chars (p : Piece) : List Char :=
  p.gap ++ p.text

/-- Where nothing stands between two tokens they are not both words and not both numerals. -/
def Apart (a b : Piece) : Prop :=
  b.gap = [] → ¬(IsWord a.text ∧ IsWord b.text) ∧ ¬(IsNumeral a.text ∧ IsNumeral b.text)

/-- The tokens of pieces that stand behind a stretch of the text. -/
def tokens (name : String) (before : List Char) : List Piece → List Token
  | [] => []
  | p :: ps => ⟨p.kind, .behind name (before ++ p.gap)⟩ :: tokens name (before ++ p.chars) ps

end Piece

/-- The text consists of these pieces and what stands behind the last token. -/
structure CutsInto (s : List Char) (pieces : List Piece) (last : List Char) : Prop where
  chars : s = pieces.flatMap Piece.chars ++ last
  gap : ∀ p ∈ pieces, Gap p.gap
  spells : ∀ p ∈ pieces, Spells p.text p.kind
  apart : pieces.IsChain Piece.Apart
  ends : EndGap last

section

variable {s t w rest last : List Char} {k : Token.Kind} {p : Piece} {pieces : List Piece}

theorem CutsInto.cons (h : CutsInto rest pieces last) (hw : Gap w) (ht : Spells t k)
    (hs : Stops t rest) : CutsInto (w ++ (t ++ rest)) (⟨w, t, k⟩ :: pieces) last where
  chars := by simp [Piece.chars, h.chars]
  gap := List.forall_mem_cons.2 ⟨hw, h.gap⟩
  spells := List.forall_mem_cons.2 ⟨ht, h.spells⟩
  apart := by
    refine List.isChain_cons.2 ⟨fun q hq hgap => ?_, h.apart⟩
    obtain ⟨more, rfl⟩ := List.head?_eq_some_iff.1 hq
    -- what follows starts with the text of the next token
    obtain ⟨c, u, hu⟩ := List.exists_cons_of_ne_nil (h.spells q (by simp)).ne_nil
    have hrest : rest.head? = some c := by simp [h.chars, Piece.chars, hgap, hu]
    refine ⟨fun ⟨hw, hw'⟩ => ?_, fun ⟨hn, hn'⟩ => ?_⟩
    · have := hs.1 hw c hrest
      simp [hw'.2 c (by simp [hu])] at this
    · have := hs.2 hn c hrest
      simp [hn'.2 c (by simp [hu])] at this
  ends := h.ends

/-- The next piece does not go on with the token in front of it. -/
theorem CutsInto.stops (h : CutsInto rest pieces last) (ha : ∀ q ∈ pieces.head?, p.Apart q) :
    Stops p.text rest := by
  cases pieces with
  | nil =>
      obtain rfl : rest = last := h.chars
      exact stops_of_gap h.ends.head
  | cons q more =>
      have hs := h.spells q (by simp)
      have hg := (h.gap q (by simp)).head
      have hchars : rest = q.gap ++ (q.text ++ (more.flatMap Piece.chars ++ last)) := by
        rw [h.chars, List.flatMap_cons, Piece.chars, List.append_assoc, List.append_assoc]
      cases hgap : q.gap with
      | cons c w =>
          refine stops_of_gap ?_
          simpa [hchars, hgap] using hg
      | nil =>
          obtain ⟨hword, hnumeral⟩ := ha q rfl hgap
          obtain ⟨c, u, hu⟩ := List.exists_cons_of_ne_nil hs.ne_nil
          rw [hu] at hs hword hnumeral
          have hrest : rest.head? = some c := by rw [hchars, hgap, hu]; rfl
          refine ⟨fun hp d hd => ?_, fun hp d hd => ?_⟩
          · obtain rfl := Option.some.inj (hrest.symm.trans hd)
            exact Bool.eq_false_iff.2 fun hc => hword ⟨hp, hs.isWord (by simp) hc⟩
          · obtain rfl := Option.some.inj (hrest.symm.trans hd)
            exact Bool.eq_false_iff.2 fun hc => hnumeral ⟨hp, hs.isNumeral (by simp) hc⟩

theorem cutsInto_cons_iff : CutsInto s (p :: pieces) last ↔ ∃ rest, s = p.gap ++ (p.text ++ rest) ∧
    Gap p.gap ∧ Spells p.text p.kind ∧ Stops p.text rest ∧ CutsInto rest pieces last := by
  constructor
  · rintro ⟨rfl, hg, hs, ha, he⟩
    obtain ⟨hp, hg⟩ := List.forall_mem_cons.1 hg
    obtain ⟨ht, hs⟩ := List.forall_mem_cons.1 hs
    obtain ⟨hhead, ha⟩ := List.isChain_cons.1 ha
    have hrest : CutsInto (pieces.flatMap Piece.chars ++ last) pieces last := ⟨rfl, hg, hs, ha, he⟩
    exact ⟨_, by simp [Piece.chars], hp, ht, hrest.stops hhead, hrest⟩
  · rintro ⟨rest, rfl, hp, ht, hs, h⟩
    exact h.cons hp ht hs

end

namespace Token.Stream

variable {name : String} {before s last : List Char} {pieces : List Piece} {st : Stream}

/-- Pieces are read one after the other. -/
theorem scan_of_cutsInto (h : CutsInto s pieces last) (name : String) (before : List Char) :
    scan (.behind name before) s =
      .ok ⟨Piece.tokens name before pieces, .behind name (before ++ s)⟩ := by
  induction pieces generalizing s before with
  | nil =>
      obtain rfl : s = last := h.chars
      rw [scan_endGap h.ends, Location.after_behind]
      rfl
  | cons p pieces ih =>
      obtain ⟨rest, rfl, hw, ht, hs, hrest⟩ := cutsInto_cons_iff.1 h
      rw [scan_gap hw, scan_spells ht hs, Location.after_behind, Location.after_behind, ih hrest]
      simp [Except.map, Stream.cons, Piece.tokens, Piece.chars]

/-- What has been read can be cut into pieces. -/
theorem exists_cutsInto_of_scan {l : Location} (h : scan l s = .ok st) :
    ∃ pieces last, CutsInto s pieces last := by
  induction hn : s.length using Nat.strongRecOn generalizing s l st with
  | ind n ih =>
      cases begins s with
      | finish he => exact ⟨[], s, rfl, by simp, by simp, .nil, he⟩
      | @token w t rest k hw ht hs =>
          rw [scan_gap hw, scan_spells ht hs] at h
          have hpos := List.length_pos_iff.2 ht.ne_nil
          cases hrest : scan ((l.after w).after t) rest with
          | error e =>
              rw [hrest] at h
              contradiction
          | ok st' =>
              simp only [List.length_append] at hn
              obtain ⟨pieces, last, hcut⟩ := ih rest.length (by omega) hrest rfl
              exact ⟨_, last, hcut.cons hw ht hs⟩
      | malformed hw ht hv hr =>
          rw [scan_gap hw, scan_malformed ht hv hr] at h
          contradiction

theorem exists_cutsInto_of_ofText (h : ofText name s = .ok st) : ∃ pieces last,
    CutsInto s pieces last ∧ st = ⟨Piece.tokens name [] pieces, .behind name s⟩ := by
  have h := scan_of_ofText h
  rw [← Location.behind_nil] at h
  obtain ⟨pieces, last, hcut⟩ := exists_cutsInto_of_scan h
  rw [scan_of_cutsInto hcut] at h
  exact ⟨pieces, last, hcut, (Except.ok.inj h).symm⟩

/-- A text has tokens exactly if it is not empty and can be cut into pieces, and the tokens are
those of the pieces, each where its text starts, and the end of the input. -/
theorem ofText_eq_ok_iff (name : String) (s : List Char) (tokens : List Token) :
    (ofText name s).map toList = .ok tokens ↔ s ≠ [] ∧ ∃ pieces last, CutsInto s pieces last ∧
      tokens = Piece.tokens name [] pieces ++ [⟨.endOfInput, .behind name s⟩] := by
  by_cases hs : s = []
  · simp [hs, ofText, Except.map]
  · rw [ofText_eq_scan hs, ← Location.behind_nil]
    constructor
    · intro h
      cases hscan : scan (.behind name []) s with
      | error e =>
          rw [hscan] at h
          contradiction
      | ok st =>
          obtain ⟨pieces, last, hcut⟩ := exists_cutsInto_of_scan hscan
          rw [scan_of_cutsInto hcut] at h
          exact ⟨hs, pieces, last, hcut, (Except.ok.inj h).symm⟩
    · rintro ⟨-, pieces, last, hcut, rfl⟩
      rw [scan_of_cutsInto hcut]
      rfl

end Token.Stream

end Kaleidoscope
