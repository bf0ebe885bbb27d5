import FrameSource.Proofs.Number.Nearest

/-!
# Arithmetic on rounded numbers

Products and quotients are rounded once, so they are nearest to the exact ones (`isNearest_mul`,
`isNearest_div`). What is nearest to a number of the format is equal to it, and lies on the same side
of every other number as what it is nearest to. A number of the format that is full has one form, and
is whole exactly when its value is.
-/

namespace FrameSource.Floating

variable {format : BinaryFormat}

theorem InFormat.isInfinite_eq_false {x : Floating format} (h : x.InFormat) :
    x.isInfinite = false := by
  obtain ⟨s, m, q, rfl⟩ := h.exists_finite
  rfl

/-! ## Products and quotients -/

theorem signed_mul (s s' : Bool) (v w : ℚ) :
    signed (s != s') (v * w) = signed s v * signed s' w := by
  cases s <;> cases s' <;> simp [signed]

theorem abs_signed (s : Bool) (v : ℚ) : |signed s v| = |v| := by
  cases s with
  | false => rfl
  | true => exact abs_neg v

/-- A product is rounded once, as long as it stays below a power of two that the format can
represent. -/
theorem isNearest_mul (hformat : 2 ≤ format.precision) (hrange : format.minExponent < format.maxExponent)
    {x y : Floating format} (hx : x.InFormat) (hy : y.InFormat)
    (h : |x.value * y.value| < 2 ^ ((format.precision : ℤ) - 1 + format.maxExponent)) :
    (x.mul y).IsNearest (x.value * y.value) := by
  obtain ⟨s, m, q, rfl⟩ := hx.exists_finite
  obtain ⟨s', m', q', rfl⟩ := hy.exists_finite
  obtain ⟨hden, hratio⟩ := ratio_spec (m * m') (q + q')
  have hproduct : ((ratio (m * m') (q + q')).1 : ℚ) / (ratio (m * m') (q + q')).2 =
      m * 2 ^ q * (m' * 2 ^ q') := by
    rw [hratio, zpow_add₀ two_ne_zero, Nat.cast_mul]
    ring
  have hvalue : (finite s m q : Floating format).value * (finite s' m' q' : Floating format).value =
      signed (s != s') (m * 2 ^ q * (m' * 2 ^ q')) := (signed_mul s s' _ _).symm
  rw [hvalue, abs_signed, ← hproduct] at h
  rw [hvalue, ← hproduct]
  apply isNearest_roundRatio hformat hrange.le _ _ hden
  exact roundRatio_ne_infinite hrange _ hden (lt_of_abs_lt h)

theorem isNearest_div (hformat : 2 ≤ format.precision) (hrange : format.minExponent < format.maxExponent)
    {x y : Floating format} (hx : x.InFormat) (hy : y.InFormat) (hne : y.value ≠ 0)
    (h : |x.value / y.value| < 2 ^ ((format.precision : ℤ) - 1 + format.maxExponent)) :
    (x.div y).IsNearest (x.value / y.value) := by
  obtain ⟨s, m, q, rfl⟩ := hx.exists_finite
  obtain ⟨s', m', q', rfl⟩ := hy.exists_finite
  have hm' : m' ≠ 0 := by
    rintro rfl
    apply hne
    cases s' <;> simp [value, signed]
  obtain ⟨hden, hratio⟩ := ratio_spec m (q - q')
  have hden' : 0 < (ratio m (q - q')).2 * m' := Nat.mul_pos hden (Nat.pos_of_ne_zero hm')
  have hquotient : ((ratio m (q - q')).1 : ℚ) / ((ratio m (q - q')).2 * m' : ℕ) =
      (m : ℚ) * 2 ^ q * ((m' : ℚ) * 2 ^ q')⁻¹ := by
    rw [Nat.cast_mul, ← div_div, hratio, zpow_sub₀ two_ne_zero, mul_inv]
    ring
  have hinv : ∀ (s : Bool) (v : ℚ), (signed s v)⁻¹ = signed s v⁻¹ := by
    intro s v
    cases s with
    | false => rfl
    | true => exact inv_neg
  have hvalue : (finite s m q : Floating format).value / (finite s' m' q' : Floating format).value =
      signed (s != s') ((m : ℚ) * 2 ^ q * ((m' : ℚ) * 2 ^ q')⁻¹) := by
    rw [signed_mul, ← hinv, div_eq_mul_inv]
    rfl
  rw [hvalue, abs_signed, ← hquotient] at h
  have hdiv : (finite s m q : Floating format).div (finite s' m' q') =
      roundRatio format (s != s') (ratio m (q - q')).1 ((ratio m (q - q')).2 * m') := if_neg hm'
  rw [hvalue, hdiv, ← hquotient]
  apply isNearest_roundRatio hformat hrange.le _ _ hden'
  exact roundRatio_ne_infinite hrange _ hden' (lt_of_abs_lt h)

/-! ## What the nearest number is equal to -/

namespace IsNearest

variable {x y : Floating format} {r : ℚ}

theorem value_eq (h : x.IsNearest r) (hy : y.InFormat) (hr : y.value = r) : x.value = r := by
  have hzero := h.nearest y hy
  rw [hr, sub_self, abs_zero] at hzero
  exact sub_eq_zero.mp (abs_nonpos_iff.mp hzero)

/-- Rounding is monotone: it does not fall below a number of the format that is not above. -/
theorem le_value (h : x.IsNearest r) (hy : y.InFormat) (hr : y.value ≤ r) : y.value ≤ x.value := by
  have hnear := h.nearest y hy
  rw [abs_sub_comm y.value, abs_of_nonneg (sub_nonneg.mpr hr)] at hnear
  have hlow := (abs_le.mp hnear).1
  linarith

/-- Rounding does not rise above a number of the format that is not below. -/
theorem value_le (h : x.IsNearest r) (hy : y.InFormat) (hr : r ≤ y.value) : x.value ≤ y.value := by
  have hnear := h.nearest y hy
  rw [abs_of_nonneg (sub_nonneg.mpr hr)] at hnear
  have hhigh := (abs_le.mp hnear).2
  linarith

end IsNearest

/-- Rounding to the nearest is symmetric, ties included, as these go by the last bit and not by the
sign. -/
theorem IsNearest.neg {x : Floating format} {r : ℚ} (h : x.IsNearest r) : x.neg.IsNearest (-r) := by
  have hflip : ∀ v w : ℚ, |-v - w| = |v - -w| := by
    intro v w
    rw [← abs_neg]
    congr 1
    ring
  have hown : |x.neg.value - -r| = |x.value - r| := by
    rw [value_neg, hflip, neg_neg]
  have hother : ∀ y : Floating format, |y.value - -r| = |y.neg.value - r| := by
    intro y
    rw [value_neg, hflip]
  refine ⟨h.inFormat.neg, h.full.neg, ?_, ?_⟩
  · intro y hy
    rw [hown, hother]
    exact h.nearest y.neg hy.neg
  · intro y hy htied hne
    rw [hown, hother] at htied
    have hne' : y.neg.value ≠ x.value := by
      intro heq
      apply hne
      rw [value_neg, ← heq, value_neg, neg_neg]
    obtain ⟨s, m, q, rfl, heven⟩ := h.even y.neg hy.neg htied hne'
    exact ⟨!s, m, q, rfl, heven⟩

/-- The significand and the exponent of a number that is full are determined by its magnitude. -/
theorem full_unique {m m' : ℕ} {q q' : ℤ} (hm : m < 2 ^ format.precision)
    (hm' : 2 ^ (format.precision - 1) ≤ m' ∨ q' = format.minExponent) (hq : format.minExponent ≤ q)
    (h : (m : ℚ) * 2 ^ q = m' * 2 ^ q') : q' ≤ q := by
  by_contra hlt
  have hmfull : 2 ^ (format.precision - 1) ≤ m' := by omega
  have hsplit : (2 : ℚ) ^ q' = 2 ^ (q' - q).toNat * 2 ^ q := by
    rw [← zpow_natCast, ← zpow_add₀ two_ne_zero]
    congr 1
    omega
  rw [hsplit, ← mul_assoc] at h
  have hmul : m = m' * 2 ^ (q' - q).toNat := by
    exact_mod_cast mul_right_cancel₀ (two_zpow_pos q).ne' h
  have htwo : 2 ^ 1 ≤ 2 ^ (q' - q).toNat := Nat.pow_le_pow_right (by decide) (by omega)
  have hlarge : 2 ^ (format.precision - 1) * 2 ^ 1 ≤ m := by
    rw [hmul]
    exact Nat.mul_le_mul hmfull htwo
  rw [← Nat.pow_add] at hlarge
  have hpow : 2 ^ format.precision ≤ 2 ^ (format.precision - 1 + 1) :=
    Nat.pow_le_pow_right (by decide) (by omega)
  omega

/-- Full numbers of the format that are equal to the same number, not zero, are the same. -/
theorem eq_of_value_eq {x y : Floating format} (hx : x.InFormat) (hxf : x.IsFull) (hy : y.InFormat)
    (hyf : y.IsFull) (h : x.value = y.value) (hne : x.value ≠ 0) : x = y := by
  obtain ⟨s, m, q, rfl⟩ := hx.exists_finite
  obtain ⟨s', m', q', rfl⟩ := hy.exists_finite
  have hpos : (0 : ℚ) ≤ m * 2 ^ q := by positivity
  have hpos' : (0 : ℚ) ≤ m' * 2 ^ q' := by positivity
  have hmagnitude : (m : ℚ) * 2 ^ q = m' * 2 ^ q' := by
    rw [← abs_of_nonneg hpos, ← abs_of_nonneg hpos', ← abs_signed s (m * 2 ^ q),
      ← abs_signed s' (m' * 2 ^ q')]
    exact congrArg abs h
  have hq : q = q' :=
    le_antisymm (full_unique hy.1 hxf hy.2.1 hmagnitude.symm)
      (full_unique hx.1 hyf hx.2.1 hmagnitude)
  subst hq
  have hm : m = m' := by exact_mod_cast mul_right_cancel₀ (two_zpow_pos q).ne' hmagnitude
  subst hm
  have hs : s = s' := by
    cases s <;> cases s' <;> simp_all [value, signed, CharZero.eq_neg_self_iff,
      CharZero.neg_eq_self_iff]
  rw [hs]

/-- A finite double is an integer exactly if its value is one, however its significand and exponent
are chosen. -/
theorem toInt?_finite (s : Bool) (m : ℕ) (q n : ℤ) :
    (finite s m q : Floating format).toInt? = some n ↔
      (finite s m q : Floating format).value = n := by
  obtain ⟨hb, hratio⟩ := ratio_spec m q
  have hvalue : (finite s m q : Floating format).value =
      signed s ((ratio m q).1 / (ratio m q).2) := by
    rw [hratio]
    rfl
  have hread : (finite s m q : Floating format).toInt? =
      if (ratio m q).1 % (ratio m q).2 = 0 then
        some (if s then -(((ratio m q).1 / (ratio m q).2 : ℕ) : ℤ)
          else ((ratio m q).1 / (ratio m q).2 : ℕ))
      else none := rfl
  rw [hread, hvalue]
  -- From here on only the fraction matters: it is whole if its remainder is zero.
  generalize (ratio m q).1 = a at *
  generalize (ratio m q).2 = b at *
  have hb' : (b : ℚ) ≠ 0 := Nat.cast_ne_zero.mpr hb.ne'
  by_cases hmod : a % b = 0
  · obtain ⟨k, rfl⟩ := Nat.dvd_of_mod_eq_zero hmod
    rw [if_pos hmod, Nat.mul_div_cancel_left _ hb, Nat.cast_mul, mul_div_cancel_left₀ _ hb',
      Option.some_inj]
    cases s with
    | false =>
      show (k : ℤ) = n ↔ (k : ℚ) = n
      norm_cast
    | true =>
      show -(k : ℤ) = n ↔ -(k : ℚ) = n
      norm_cast
  · rw [if_neg hmod]
    constructor
    · intro h
      cases h
    · intro h
      exfalso
      have hwhole : (a : ℚ) / b = signed s n := by rw [← h, signed_signed]
      have hnat : (a : ℚ) / b = n.natAbs := by
        rw [Nat.cast_natAbs, Int.cast_abs, ← abs_of_nonneg (by positivity : (0 : ℚ) ≤ a / b), hwhole]
        cases s with
        | false => rfl
        | true => exact abs_neg _
      rw [div_eq_iff hb'] at hnat
      have hmul : a = n.natAbs * b := by exact_mod_cast hnat
      exact hmod (by rw [hmul, Nat.mul_mod_left])

/-- For numbers of a format the conversion to an integer is determined by the value. -/
theorem toInt?_eq_some_iff {x : Floating format} (hx : x.InFormat) {n : ℤ} :
    x.toInt? = some n ↔ x.value = n := by
  obtain ⟨s, m, q, rfl⟩ := hx.exists_finite
  exact toInt?_finite s m q n

end FrameSource.Floating
