import Kaleidoscope.Proofs.Numerals
import Kaleidoscope.Proofs.Scanning
import Mathlib.Algebra.Order.Field.Basic
import Mathlib.Algebra.Order.Field.Rat
import Mathlib.Tactic.Positivity
import Mathlib.Tactic.Ring

/-!
Which digits and points name a finite number. Rounding gives an infinity from an exact bound on,
half a unit of the last place above the largest finite number (`isFinite_ofDecimal_iff`): below the
exponent of that number nothing is rounded so far, above it everything is, and at it the quotient is
rounded up to the next power of two from that bound on (`le_scaled_iff`). So a numeral names none if
it has no digit, or a second point, or is not below the bound (`ofNumeral?_eq_none_iff`).
-/

namespace Kaleidoscope

namespace Binary64

variable {n d j s t : Nat}

/-! ### Rounding to an infinity -/

/-- A quotient is rounded to more than an odd number from half a unit above it on. -/
theorem lt_roundQuotient_iff (hd : 0 < d) (hj : j % 2 = 1) :
    j < roundQuotient n d ↔ (2 * j + 1) * d ≤ 2 * n := by
  have hn := Nat.div_add_mod n d
  have hr := Nat.mod_lt n hd
  have hmul : (2 * j + 1) * d = 2 * (d * j) + d := by ring
  rw [hmul, roundQuotient]
  generalize n / d = q at *
  generalize n % d = r at *
  rcases Nat.lt_trichotomy q j with hlt | rfl | hlt
  · have hle : d * (q + 1) ≤ d * j := Nat.mul_le_mul_left d hlt
    rw [Nat.mul_add, Nat.mul_one] at hle
    split
    · omega
    · split <;> omega
  · split
    · omega
    · split <;> omega
  · have hle : d * (j + 1) ≤ d * q := Nat.mul_le_mul_left d hlt
    rw [Nat.mul_add, Nat.mul_one] at hle
    split
    · omega
    · split <;> omega

theorem div_le_roundQuotient (n d : Nat) : n / d ≤ roundQuotient n d := by
  unfold roundQuotient
  split
  · exact Nat.le_refl _
  · split <;> omega

theorem roundQuotient_le (n d : Nat) : roundQuotient n d ≤ n / d + 1 := by
  unfold roundQuotient
  split
  · omega
  · split <;> omega

/-- Scaled, a quotient keeps at most 53 bits. -/
theorem div_pow_lt (n : Nat) (hs : s = n.log2 - 52) : n / Nat.pow 2 s < Nat.pow 2 53 := by
  have hpos : 0 < Nat.pow 2 s := Nat.two_pow_pos s
  have hlt : n < Nat.pow 2 (n.log2 + 1) := Nat.lt_log2_self
  have hpow : Nat.pow 2 53 * Nat.pow 2 s = Nat.pow 2 (53 + s) := (Nat.pow_add ..).symm
  rw [Nat.div_lt_iff_lt_mul hpos, hpow]
  exact Nat.lt_of_lt_of_le hlt (Nat.pow_le_pow_right (by decide) (by omega))

theorem le_div_pow (hs : s = n.log2 - 52) (h : 0 < s) : Nat.pow 2 52 ≤ n / Nat.pow 2 s := by
  have hn : n ≠ 0 := by
    rintro rfl
    simp at hs
    omega
  have hpos : 0 < Nat.pow 2 s := Nat.two_pow_pos s
  have hle : Nat.pow 2 n.log2 ≤ n := Nat.log2_self_le hn
  have hpow : Nat.pow 2 52 * Nat.pow 2 s = Nat.pow 2 (52 + s) := (Nat.pow_add ..).symm
  rwa [Nat.le_div_iff_mul_le hpos, hpow, hs, Nat.add_sub_of_le (by omega)]

/-- The rounded quotient gets to the exponent `t + 3` from half a unit of the last place below the
least magnitude of that exponent on. -/
theorem le_scaled_iff (hd : 0 < d) (hs : s = (n / d).log2 - 52) :
    (t + 3) * Nat.pow 2 52 ≤ s * Nat.pow 2 52 + roundQuotient n (d * Nat.pow 2 s) ↔
      (2 * (Nat.pow 2 53 - 1) + 1) * (d * Nat.pow 2 (t + 1)) ≤ 2 * n := by
  have hdiv : n / d / Nat.pow 2 s = n / (d * Nat.pow 2 s) := Nat.div_div_eq_div_mul n d _
  have hpos : 0 < d * Nat.pow 2 s := Nat.mul_pos hd (Nat.two_pow_pos s)
  have hmono {a b : Nat} (h : a ≤ b) : d * Nat.pow 2 a ≤ d * Nat.pow 2 b :=
    Nat.mul_le_mul_left d (Nat.pow_le_pow_right (by decide) h)
  have htwo (a : Nat) : d * Nat.pow 2 (a + 1) = 2 * (d * Nat.pow 2 a) := by
    rw [show Nat.pow 2 (a + 1) = 2 * Nat.pow 2 a from Nat.pow_succ', Nat.mul_left_comm]
  have h53 : Nat.pow 2 53 = 2 * Nat.pow 2 52 := rfl
  have hunit : 1 < Nat.pow 2 52 := by decide
  rcases Nat.lt_trichotomy s (t + 1) with hlt | rfl | hlt
  -- too small, even if rounding carries into the next power of two
  · have hq := div_pow_lt (n / d) hs
    have hround := roundQuotient_le n (d * Nat.pow 2 s)
    rw [hdiv] at hq
    have hexp : (s + 2) * Nat.pow 2 52 < (t + 3) * Nat.pow 2 52 :=
      Nat.mul_lt_mul_of_pos_right (by omega) (by omega)
    rw [Nat.add_mul] at hexp
    refine iff_of_false (by omega) (Nat.not_le.2 ?_)
    rw [Nat.div_lt_iff_lt_mul hpos] at hq
    have hle : Nat.pow 2 53 * (d * Nat.pow 2 s) ≤
        (2 * (Nat.pow 2 53 - 1) + 1) * (d * Nat.pow 2 t) :=
      Nat.mul_le_mul (by omega) (hmono (Nat.le_of_lt_succ hlt))
    rw [htwo, Nat.mul_left_comm]
    omega
  · have hround := lt_roundQuotient_iff (n := n) (j := Nat.pow 2 53 - 1) hpos (by decide)
    rw [← hround, show (t + 3) * Nat.pow 2 52 = (t + 1) * Nat.pow 2 52 + Nat.pow 2 53 by
      rw [h53, ← Nat.add_mul]]
    omega
  -- large enough, even if nothing is rounded up
  · have hq := le_div_pow hs (by omega)
    have hround := div_le_roundQuotient n (d * Nat.pow 2 s)
    rw [hdiv] at hq
    have hexp : (t + 3) * Nat.pow 2 52 ≤ (s + 1) * Nat.pow 2 52 :=
      Nat.mul_le_mul_right _ (by omega)
    rw [Nat.add_mul s] at hexp
    refine iff_of_true (by omega) ?_
    rw [Nat.le_div_iff_mul_le hpos] at hq
    have hle : (2 * (Nat.pow 2 53 - 1) + 1) * (d * Nat.pow 2 (t + 1)) ≤
        4 * Nat.pow 2 52 * (d * Nat.pow 2 (t + 1)) :=
      Nat.mul_le_mul_right _ (by omega)
    have hscale := Nat.mul_le_mul_left (Nat.pow 2 52) (hmono (a := t + 1 + 1) hlt)
    rw [htwo (t + 1), Nat.mul_left_comm] at hscale
    rw [Nat.mul_assoc 4] at hle
    omega

theorem nearestMagnitude_lt_infinity_iff (hd : 0 < d) (ht : t = 2044) :
    nearestMagnitude n d < infinity ↔
      2 * n < (2 * (Nat.pow 2 53 - 1) + 1) * (d * Nat.pow 2 (t + 1)) := by
  have htop : infinity = (t + 3) * Nat.pow 2 52 := by rw [ht, infinity]
  have hmin (m : Nat) : min m infinity < infinity ↔ ¬infinity ≤ m := by omega
  rw [nearestMagnitude, hmin, ← Nat.not_le, not_congr]
  rw [htop]
  exact le_scaled_iff hd rfl

end Binary64

def Decimal.toRat (d : Decimal) : ℚ :=
  d.digits / 10 ^ d.places

/-- A decimal is rounded to a finite number exactly below this bound, half a unit of the last place
above the largest one. -/
theorem Binary64.isFinite_ofDecimal_iff (d : Decimal) :
    (ofDecimal d).isFinite = true ↔ d.toRat < 2 ^ 1024 - 2 ^ 970 := by
  -- the exponents are variables, so that no power is evaluated
  obtain ⟨t, ht⟩ : ∃ t, t = 2044 := ⟨_, rfl⟩
  obtain ⟨u, hu⟩ : ∃ u, u = 1074 := ⟨_, rfl⟩
  obtain ⟨v, hv⟩ : ∃ v, v = 970 := ⟨_, rfl⟩
  have hden : 0 < Nat.pow 10 d.places := Nat.pow_pos (by decide)
  have hfinite : (ofDecimal d).isFinite = true ↔
      d.digits < (Nat.pow 2 54 - 1) * (Nat.pow 10 d.places * Nat.pow 2 v) := by
    have hsplit : Nat.pow 2 (t + 1) = Nat.pow 2 u * (2 * Nat.pow 2 v) := by
      rw [show t + 1 = u + (v + 1) by omega]
      exact (Nat.pow_add ..).trans (congrArg (Nat.pow 2 u * ·) Nat.pow_succ')
    have hpos : 0 < 2 * Nat.pow 2 u := Nat.mul_pos (by decide) (Nat.two_pow_pos u)
    rw [isFinite, decide_eq_true_iff, ofDecimal, nearestMagnitude_lt_infinity_iff hden ht, hsplit,
      ← hu, ← Nat.mul_lt_mul_left hpos (b := d.digits)]
    refine iff_of_eq (congrArg₂ _ (by ring) ?_)
    rw [show 2 * (Nat.pow 2 53 - 1) + 1 = Nat.pow 2 54 - 1 by decide]
    ring
  have hbound : (2 : ℚ) ^ 1024 - 2 ^ 970 = ((2 ^ 54 - 1 : ℕ) : ℚ) * 2 ^ v := by
    rw [show 1024 = 54 + v by omega, ← hv, pow_add, Nat.cast_sub (Nat.one_le_two_pow)]
    push_cast
    ring
  have hten : (0 : ℚ) < 10 ^ d.places := by positivity
  rw [hfinite, Decimal.toRat, div_lt_iff₀ hten, hbound, mul_assoc, mul_comm (2 ^ v : ℚ)]
  exact_mod_cast Iff.rfl

/-! ### Digits and points -/

namespace Decimal

variable {text whole fraction : List Char} {d : Decimal}

theorem isDigit_or_eq_point {c : Char} (h : isNumeralChar c = true) :
    c.isDigit = true ∨ c = '.' := by
  simpa [isNumeralChar] using h

theorem isDigit_ne_point {c : Char} (h : c.isDigit = true) : c ≠ '.' := by
  rintro rfl
  contradiction

/-- In front of the first point there are only digits. -/
theorem exists_parts (h : IsNumeral text) : (∀ c ∈ text, c.isDigit = true) ∨
    ∃ whole fraction, text = whole ++ '.' :: fraction ∧ ∀ c ∈ whole, c.isDigit = true := by
  obtain ⟨whole, rest, rfl, hw, hr⟩ := exists_span Char.isDigit text
  cases rest with
  | nil => exact .inl (by simpa using hw)
  | cons c fraction =>
      obtain hc | rfl := isDigit_or_eq_point (h.2 c (by simp))
      · simp [hr c rfl] at hc
      · exact .inr ⟨whole, fraction, rfl, hw⟩

theorem ofChars?_parts (hw : ∀ c ∈ whole, c.isDigit = true) :
    ofChars? (whole ++ '.' :: fraction) =
      if fraction.all Char.isDigit && !(whole ++ fraction).isEmpty then
        some ⟨value (whole ++ fraction), fraction.length⟩
      else none := by
  have hstop : ∀ c ∈ ('.' :: fraction).head?, c.isDigit = false := by simp
  rw [ofChars?, takeWhile_append_of_stop hw hstop, dropWhile_append_of_stop hw hstop]
  rfl

theorem filter_point (h : ∀ c ∈ text, c.isDigit = true) : text.filter (· ≠ '.') = text :=
  List.filter_eq_self.2 fun c hc => by simpa using isDigit_ne_point (h c hc)

theorem count_point (h : ∀ c ∈ text, c.isDigit = true) : text.count '.' = 0 :=
  List.count_eq_zero.2 fun hmem => isDigit_ne_point (h _ hmem) rfl

theorem ofChars?_eq_none_iff (hn : IsNumeral text) : ofChars? text = none ↔
    (∀ c ∈ text, c.isDigit = false) ∨ 1 < text.count '.' := by
  obtain hdigits | ⟨whole, fraction, rfl, hw⟩ := exists_parts hn
  · obtain ⟨c, hc⟩ := List.exists_mem_of_ne_nil text hn.1
    rw [ofChars?_whole hdigits hn.1, count_point hdigits]
    refine iff_of_false (by simp) ?_
    rintro (h | h)
    · have := h c hc
      simp [hdigits c hc] at this
    · omega
  · have hcount : (whole ++ '.' :: fraction).count '.' = fraction.count '.' + 1 := by
      rw [List.count_append, List.count_cons_self, count_point hw, Nat.zero_add]
    rw [ofChars?_parts hw, hcount]
    by_cases hpoint : '.' ∈ fraction
    · have hall : fraction.all Char.isDigit = false := by
        simpa using ⟨'.', hpoint, by decide⟩
      have hpos := List.count_pos_iff.2 hpoint
      exact iff_of_true (by simp [hall]) (.inr (by omega))
    · have hf : ∀ c ∈ fraction, c.isDigit = true := by
        intro c hc
        obtain h | rfl := isDigit_or_eq_point (hn.2 c (by simp [hc]))
        · exact h
        · contradiction
      have hall : fraction.all Char.isDigit = true := List.all_eq_true.2 hf
      rw [hall, List.count_eq_zero.2 hpoint]
      cases hdigits : whole ++ fraction with
      | nil =>
          obtain ⟨rfl, rfl⟩ := List.append_eq_nil_iff.1 hdigits
          simp
      | cons c digits =>
          have hmem : c ∈ whole ++ fraction := by simp [hdigits]
          have hc : c.isDigit = true := by
            rcases List.mem_append.1 hmem with h | h
            · exact hw c h
            · exact hf c h
          refine iff_of_false (by simp) ?_
          rintro (h | h)
          · have := h c (by simpa [or_left_comm] using .inr (List.mem_append.1 hmem))
            simp [hc] at this
          · omega

/-- The number named by digits with at most one point among them: a whole number, over ten for each
digit behind the point. -/
def exactValue (text : List Char) : ℚ :=
  value (text.filter (· ≠ '.')) / 10 ^ ((text.dropWhile (· ≠ '.')).drop 1).length

theorem toRat_of_ofChars? (hn : IsNumeral text) (h : ofChars? text = some d) :
    d.toRat = exactValue text := by
  obtain hdigits | ⟨whole, fraction, rfl, hw⟩ := exists_parts hn
  · rw [ofChars?_whole hdigits hn.1] at h
    obtain rfl := Option.some.inj h
    have hdrop : text.dropWhile (· ≠ '.') = [] :=
      List.dropWhile_eq_nil_iff.2 fun c hc => by simpa using isDigit_ne_point (hdigits c hc)
    rw [exactValue, filter_point hdigits, hdrop]
    rfl
  · rw [ofChars?_parts hw] at h
    split at h <;> rename_i hif
    · obtain rfl := Option.some.inj h
      have hf : ∀ c ∈ fraction, c.isDigit = true := by
        simp only [Bool.and_eq_true, List.all_eq_true] at hif
        exact hif.1
      have hdrop : (whole ++ '.' :: fraction).dropWhile (· ≠ '.') = '.' :: fraction :=
        dropWhile_append_of_stop (fun c hc => by simpa using isDigit_ne_point (hw c hc)) (by simp)
      have hfilter : (whole ++ '.' :: fraction).filter (· ≠ '.') = whole ++ fraction := by
        rw [List.filter_append, List.filter_cons_of_neg (by simp), filter_point hw, filter_point hf]
      rw [exactValue, hdrop, hfilter]
      rfl
    · contradiction

end Decimal

/-- Digits and points that name no finite number: there is no digit, or a second point, or the
number is too large. -/
def Malformed (run : List Char) : Prop :=
  (∀ c ∈ run, c.isDigit = false) ∨ 1 < run.count '.' ∨
    2 ^ 1024 - 2 ^ 970 ≤ Decimal.exactValue run

theorem Binary64.ofNumeral?_eq_none_iff {run : List Char} (hn : IsNumeral run) :
    ofNumeral? run = none ↔ Malformed run := by
  rw [ofNumeral?, Malformed, ← or_assoc, ← Decimal.ofChars?_eq_none_iff hn]
  cases h : Decimal.ofChars? run with
  | none => simp
  | some d =>
      rw [← Decimal.toRat_of_ofChars? hn h, ← not_lt, ← isFinite_ofDecimal_iff]
      simp [Option.filter]

end Kaleidoscope
