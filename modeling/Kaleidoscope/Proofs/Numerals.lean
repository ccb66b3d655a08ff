import Kaleidoscope.Number.Shortest
import Kaleidoscope.Text.Lexeme
import Mathlib.Data.List.DropRight
import Mathlib.Data.Nat.Log

/-!
The text of a number reads back. Rounding depends on the value of a decimal and not on how it is
written (`ofDecimal_congr`), and it finds a number again from its exact value (`ofDecimal_exact`).
So each candidate of the search for the shortest text reads back, and dropping ending zeros changes
nothing (`ofNumeral?_chars`).
-/

namespace Kaleidoscope

/-! ### Rounding -/

namespace Binary64

variable {k n d m : Nat}

theorem roundQuotient_mul_left (hk : 0 < k) :
    roundQuotient (k * n) (k * d) = roundQuotient n d := by
  have hdouble : 2 * (k * n % (k * d)) = k * (2 * (n % d)) := by
    rw [Nat.mul_mod_mul_left, Nat.mul_left_comm]
  simp only [roundQuotient, hdouble, Nat.mul_div_mul_left n d hk, Nat.mul_lt_mul_left hk]

/-- A whole quotient is not rounded. -/
theorem roundQuotient_mul_right (hd : 0 < d) : roundQuotient (n * d) d = n := by
  rw [roundQuotient, Nat.mul_mod_left, if_pos (by omega), Nat.mul_div_left n hd]

theorem nearestMagnitude_mul_left (hk : 0 < k) :
    nearestMagnitude (k * n) (k * d) = nearestMagnitude n d := by
  simp only [nearestMagnitude, Nat.mul_div_mul_left n d hk, Nat.mul_assoc,
    roundQuotient_mul_left hk]

/-- The units of a normal magnitude have 53 bits in front of the scaling. -/
theorem log2_units (h : Nat.pow 2 52 ≤ m) : (units m).log2 = 52 + scale m := by
  have hlow : Nat.pow 2 52 ≤ significand m := by
    rw [significand, if_neg (Nat.not_lt.2 h)]
    exact Nat.le_add_right _ _
  have hhigh : significand m < Nat.pow 2 53 := by
    rw [significand, if_neg (Nat.not_lt.2 h)]
    have : m % Nat.pow 2 52 < Nat.pow 2 52 := Nat.mod_lt m (by decide)
    have hdouble : Nat.pow 2 53 = 2 * Nat.pow 2 52 := by decide
    omega
  have hpos : 0 < Nat.pow 2 (scale m) := Nat.two_pow_pos _
  rw [units]
  refine (Nat.log2_eq_iff ?_).2 ⟨?_, ?_⟩
  · have : 0 < Nat.pow 2 52 := by decide
    exact Nat.mul_ne_zero (by omega) (Nat.ne_of_gt hpos)
  · rw [Nat.pow_add]
    exact Nat.mul_le_mul_right _ hlow
  · rw [show 52 + scale m + 1 = 53 + scale m by omega, Nat.pow_add]
    exact Nat.mul_lt_mul_of_pos_right hhigh hpos

theorem nearestMagnitude_units (h : m < infinity) : nearestMagnitude (units m) 1 = m := by
  have hround (s : Nat) (n : Nat) : roundQuotient (n * Nat.pow 2 s) (1 * Nat.pow 2 s) = n := by
    rw [Nat.one_mul]
    exact roundQuotient_mul_right (Nat.two_pow_pos s)
  suffices hscale : (units m).log2 - 52 = scale m ∧
      scale m * Nat.pow 2 52 + significand m = m by
    simp only [nearestMagnitude, Nat.div_one, hscale.1]
    rw [units, hround, hscale.2]
    exact Nat.min_eq_left (Nat.le_of_lt h)
  by_cases hm : m < Nat.pow 2 52
  -- subnormal: one unit is the spacing
  · have hs : scale m = 0 := by rw [scale, Nat.div_eq_of_lt hm]
    have hu : units m = m := by simp [units, significand, hm, hs]
    refine ⟨?_, by simp [significand, hm, hs]⟩
    rw [hu, hs]
    by_cases h0 : m = 0
    · subst h0
      decide
    · have : m.log2 < 52 := (Nat.log2_lt h0).2 hm
      omega
  · have hm : Nat.pow 2 52 ≤ m := Nat.not_lt.1 hm
    refine ⟨by rw [log2_units hm, Nat.add_sub_cancel_left], ?_⟩
    have hq : 1 ≤ m / Nat.pow 2 52 := (Nat.one_le_div_iff (by decide)).2 hm
    rw [significand, if_neg (Nat.not_lt.2 hm), scale, ← Nat.add_assoc, ← Nat.succ_mul,
      Nat.succ_eq_add_one, Nat.sub_add_cancel hq, Nat.mul_comm]
    exact Nat.div_add_mod m _

end Binary64

/-! ### The value of a decimal -/

namespace Decimal

/-- Both stand for one number. -/
def Same (d e : Decimal) : Prop :=
  d.digits * Nat.pow 10 e.places = e.digits * Nat.pow 10 d.places

end Decimal

namespace Binary64

variable {m : Nat} {d e : Decimal}

theorem ofDecimal_congr (h : d.Same e) : ofDecimal d = ofDecimal e := by
  have hpos (p : Nat) : 0 < Nat.pow 10 p := Nat.pow_pos (by decide)
  have hmag : nearestMagnitude (d.digits * Nat.pow 2 1074) (Nat.pow 10 d.places) =
      nearestMagnitude (e.digits * Nat.pow 2 1074) (Nat.pow 10 e.places) := by
    generalize Nat.pow 2 1074 = u
    rw [← nearestMagnitude_mul_left (hpos e.places),
      ← nearestMagnitude_mul_left (n := e.digits * u) (hpos d.places),
      Nat.mul_comm (Nat.pow 10 d.places) (Nat.pow 10 e.places), ← Nat.mul_assoc, ← Nat.mul_assoc,
      Nat.mul_comm _ d.digits, Nat.mul_comm _ e.digits, show _ = _ from h]
  simp only [ofDecimal, hmag]

theorem exact_units (m : Nat) :
    (exact m).digits * Nat.pow 2 1074 = Nat.pow 10 (exact m).places * units m := by
  have hadd (s t : Nat) : Nat.pow 2 (s + t) = Nat.pow 2 t * Nat.pow 2 s := by
    rw [Nat.add_comm]
    exact Nat.pow_add 2 t s
  rw [units, exact]
  generalize significand m = n
  generalize scale m = s
  -- which power of two the unit is does not matter
  generalize 1074 = u
  by_cases hs : u ≤ s
  · obtain ⟨t, rfl⟩ := Nat.exists_eq_add_of_le hs
    simp only [if_pos hs, Nat.add_sub_cancel_left, hadd, Nat.mul_assoc]
    exact (Nat.one_mul _).symm
  · obtain ⟨t, rfl⟩ := Nat.exists_eq_add_of_le (Nat.le_of_not_le hs)
    have hten : Nat.pow 10 t = Nat.pow 2 t * Nat.pow 5 t := Nat.mul_pow 2 5 t
    simp only [if_neg hs, Nat.add_sub_cancel_left, hadd, hten]
    ac_rfl

/-- Rounding the exact value of a number gives the number. -/
theorem ofDecimal_exact (h : m < infinity) : (ofDecimal (exact m)).magnitude = m := by
  have hpos : 0 < Nat.pow 10 (exact m).places := Nat.pow_pos (by decide)
  calc
    nearestMagnitude ((exact m).digits * Nat.pow 2 1074) (Nat.pow 10 (exact m).places) =
        nearestMagnitude (Nat.pow 10 (exact m).places * units m)
          (Nat.pow 10 (exact m).places * 1) := by rw [exact_units, Nat.mul_one]
    _ = nearestMagnitude (units m) 1 := nearestMagnitude_mul_left hpos
    _ = m := nearestMagnitude_units h

end Binary64

/-! ### Digits -/

namespace Decimal

variable {d : Decimal} {whole fraction : List Char}

theorem value_append (s t : List Char) :
    value (s ++ t) = Nat.pow 10 t.length * value s + value t := by
  rw [value, Nat.ofDigitChars_append, Nat.ofDigitChars_eq_ofDigitChars_zero]
  rfl

theorem value_replicate_zero (k : Nat) : value (List.replicate k '0') = 0 := by
  induction k with
  | zero => rfl
  | succ k ih =>
      rw [List.replicate_succ, ← List.singleton_append, value_append, ih]
      rfl

theorem value_toDigits (n : Nat) : value (Nat.toDigits 10 n) = n :=
  Nat.ofDigitChars_toDigits (by decide) (by decide)

theorem isDigit_of_mem_toDigits {n : Nat} : ∀ c ∈ Nat.toDigits 10 n, c.isDigit = true :=
  fun _ => Nat.isDigit_of_mem_toDigits (by decide) (by decide)

theorem exists_append_dropEndingZeros (s : List Char) :
    ∃ k, s = dropEndingZeros s ++ List.replicate k '0' := by
  refine ⟨(s.rtakeWhile (· = '0')).length, ?_⟩
  have hzeros : s.rtakeWhile (· = '0') = List.replicate (s.rtakeWhile (· = '0')).length '0' := by
    refine List.eq_replicate_iff.2 ⟨rfl, fun c hc => ?_⟩
    simpa using List.mem_rtakeWhile_imp hc
  rw [← hzeros]
  exact (List.rdropWhile_append_rtakeWhile ..).symm

/-- Dropping ending zeros changes the number of digits and the value by the same power. -/
theorem value_fraction (d : Decimal) : value d.fraction * Nat.pow 10 d.places =
    d.digits % Nat.pow 10 d.places * Nat.pow 10 d.fraction.length := by
  obtain ⟨k, hk⟩ := exists_append_dropEndingZeros
    ((Nat.toDigits 10 (d.digits % Nat.pow 10 d.places)).leftpad d.places '0')
  change _ = d.fraction ++ _ at hk
  have hvalue := congrArg value hk
  rw [List.leftpad, value_append, value_append, value_replicate_zero, value_replicate_zero,
    value_toDigits, List.length_replicate, Nat.mul_zero, Nat.zero_add, Nat.add_zero] at hvalue
  rcases Nat.eq_zero_or_pos d.places with h0 | hpos
  · have hnone : d.fraction = [] := by
      simp only [fraction, h0]
      rw [show Nat.pow 10 0 = 1 from rfl, Nat.mod_one]
      rfl
    rw [hnone, h0]
    rw [show Nat.pow 10 0 = 1 from rfl, Nat.mod_one]
    rfl
  · have hlength := congrArg List.length hk
    have hfits : (Nat.toDigits 10 (d.digits % Nat.pow 10 d.places)).length ≤ d.places :=
      (Nat.length_toDigits_le_iff (by decide) hpos).2 (Nat.mod_lt _ (Nat.pow_pos (by decide)))
    rw [List.leftpad, List.length_append, List.length_replicate, Nat.sub_add_cancel hfits,
      List.length_append, List.length_replicate] at hlength
    have hpow : Nat.pow 10 (d.fraction.length + k) = Nat.pow 10 d.fraction.length * Nat.pow 10 k :=
      Nat.pow_add ..
    rw [hvalue, hlength, hpow]
    ac_rfl

theorem isDigit_of_mem_fraction : ∀ c ∈ d.fraction, c.isDigit = true := by
  intro c hc
  obtain ⟨k, hk⟩ := exists_append_dropEndingZeros
    ((Nat.toDigits 10 (d.digits % Nat.pow 10 d.places)).leftpad d.places '0')
  have hmem := hk ▸ List.mem_append_left (List.replicate k '0') hc
  rcases List.mem_append.1 hmem with h | h
  · rw [List.eq_of_mem_replicate h]
    rfl
  · exact isDigit_of_mem_toDigits c h

/-! ### The text of a decimal -/

theorem ofChars?_whole (hw : ∀ c ∈ whole, c.isDigit = true) (hne : whole ≠ []) :
    ofChars? whole = some ⟨value whole, 0⟩ := by
  simp [ofChars?, List.takeWhile_eq_self_iff.2 hw, List.dropWhile_eq_nil_iff.2 hw, hne]

theorem ofChars?_point (hw : ∀ c ∈ whole, c.isDigit = true)
    (hf : ∀ c ∈ fraction, c.isDigit = true) (hne : whole ≠ []) :
    ofChars? (whole ++ '.' :: fraction) = some ⟨value (whole ++ fraction), fraction.length⟩ := by
  have hall : fraction.all Char.isDigit = true := List.all_eq_true.2 hf
  have htake : (whole ++ '.' :: fraction).takeWhile Char.isDigit = whole := by
    rw [List.takeWhile_append_of_pos hw]
    exact List.append_nil whole
  have hdrop : (whole ++ '.' :: fraction).dropWhile Char.isDigit = '.' :: fraction :=
    List.dropWhile_append_of_pos hw
  simp [ofChars?, htake, hdrop, hall, hne]

/-- The text of a decimal reads back as its value, maybe with fewer places. -/
theorem ofChars?_chars (d : Decimal) : ∃ e, ofChars? d.chars = some e ∧ e.Same d := by
  have hw := @isDigit_of_mem_toDigits (d.digits / Nat.pow 10 d.places)
  have hne : Nat.toDigits 10 (d.digits / Nat.pow 10 d.places) ≠ [] := Nat.toDigits_ne_nil
  have hsame : Same ⟨value (Nat.toDigits 10 (d.digits / Nat.pow 10 d.places) ++ d.fraction),
      d.fraction.length⟩ d := by
    have hvalue := value_fraction d
    rw [Same, value_append, value_toDigits]
    calc
      (Nat.pow 10 d.fraction.length * (d.digits / Nat.pow 10 d.places) + value d.fraction) *
            Nat.pow 10 d.places =
          Nat.pow 10 d.places * (d.digits / Nat.pow 10 d.places) * Nat.pow 10 d.fraction.length +
            d.digits % Nat.pow 10 d.places * Nat.pow 10 d.fraction.length := by
        rw [Nat.add_mul, hvalue]
        ac_rfl
      _ = d.digits * Nat.pow 10 d.fraction.length := by rw [← Nat.add_mul, Nat.div_add_mod]
  refine ⟨_, ?_, hsame⟩
  rw [chars]
  split
  · have hnone : d.fraction = [] := by simpa using ‹d.fraction.isEmpty = true›
    rw [hnone, List.append_nil]
    exact ofChars?_whole hw hne
  · exact ofChars?_point hw isDigit_of_mem_fraction hne

theorem chars_ne_nil (d : Decimal) : d.chars ≠ [] := by
  simp [chars, Nat.toDigits_ne_nil]

theorem isNumeralChar_of_mem_chars : ∀ c ∈ d.chars, isNumeralChar c = true := by
  intro c hc
  have hdigit (h : c.isDigit = true) : isNumeralChar c = true := by
    rw [isNumeralChar, h]
    rfl
  rcases List.mem_append.1 hc with h | h
  · exact hdigit (isDigit_of_mem_toDigits c h)
  · split at h
    · contradiction
    · rcases List.mem_cons.1 h with rfl | h
      · rfl
      · exact hdigit (isDigit_of_mem_fraction c h)

end Decimal

/-! ### The text of a number -/

namespace Decimal

variable {good : Decimal → Bool}

/-- The search keeps to what it looks for, or finds nothing shorter. -/
theorem abbreviate_cases (good : Decimal → Bool) (d : Decimal) (j : Nat) :
    good (d.abbreviate good j) = true ∨ d.abbreviate good j = d := by
  induction j with
  | zero => exact .inr rfl
  | succ j ih =>
      rw [abbreviate]
      split
      · simp_all
      · split
        · exact .inl ‹_›
        · exact ih

end Decimal

namespace Binary64

variable {x : Binary64}

theorem ofDecimal_shortest (h : x.isFinite = true) :
    (ofDecimal x.shortest).magnitude = x.magnitude := by
  have hm : x.magnitude < infinity := by simpa [isFinite] using h
  rcases Decimal.abbreviate_cases (fun e => (ofDecimal e).magnitude = x.magnitude)
    (exact x.magnitude) (exact x.magnitude).width with hgood | hsame
  · exact of_decide_eq_true hgood
  · rw [shortest, hsame]
    exact ofDecimal_exact hm

/-- A number that is not negative is written without a sign. -/
theorem chars_of_finite (h : x.isFinite = true) :
    x.chars = (if x.negative then ['-'] else []) ++ x.shortest.chars := by
  have hm : x.magnitude < infinity := by simpa [isFinite] using h
  have hnan : x.isNaN = false := by
    simp only [isNaN, decide_eq_false_iff_not]
    omega
  rw [chars, hnan, h]
  rfl

/-- The text of a finite number without a sign reads back, bit for bit. -/
theorem ofNumeral?_chars (h : x.isFinite = true) (hs : x.negative = false) :
    ofNumeral? x.chars = some x := by
  obtain ⟨e, he, hsame⟩ := x.shortest.ofChars?_chars
  have hx : ofDecimal e = x := by
    obtain ⟨negative, magnitude, hlt⟩ := x
    obtain rfl : negative = false := hs
    have := ofDecimal_shortest h
    rw [← ofDecimal_congr hsame] at this
    simp only [ofDecimal, Binary64.mk.injEq, true_and]
    exact this
  rw [chars_of_finite h, hs, ofNumeral?]
  simp [he, hx, h]

end Binary64

end Kaleidoscope
