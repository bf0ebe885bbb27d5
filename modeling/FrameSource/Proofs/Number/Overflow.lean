import FrameSource.Proofs.Number.Arithmetic

/-!
# Overflow

What is rounded to infinity. The limit of a format lies half way between its greatest number and the
next power of two, to which a tie would go: a magnitude that reaches the limit is infinite, and every
other one is rounded to the nearest number of the format (`roundRatio_eq_infinite_iff`).

**Narrowing a number** (`narrows_convert`) to another format rounds it once, and keeps its sign where
it overflows.
-/

namespace FrameSource

/-- The least magnitude that is rounded to infinity. -/
def BinaryFormat.limit (format : BinaryFormat) : ℚ :=
  (2 ^ format.precision - 1 / 2) * 2 ^ format.maxExponent

namespace Floating

variable {format target : BinaryFormat}

/-- Whether a number is written with a minus sign; a zero may be, too. -/
def isNegative : Floating format → Bool
  | .nan => false
  | .infinite s => s
  | .finite s _ _ => s

/-- A number in another format: the nearest one, or an infinite one where that format has none. -/
structure Narrows (x : Floating format) (y : Floating target) : Prop where
  sign : y.isNegative = x.isNegative
  inRange : |x.value| < target.limit → y.IsNearest x.value
  beyond : target.limit ≤ |x.value| → y = .infinite x.isNegative

/-! ## The limit of a format -/

/-- Up to this power of two, nothing is rounded beyond the greatest number of a format. -/
theorem two_zpow_le_limit (hformat : 2 ≤ format.precision) :
    (2 : ℚ) ^ ((format.precision : ℤ) - 1 + format.maxExponent) ≤ format.limit := by
  rw [← two_pow_precision_mul (by omega)]
  apply mul_le_mul_of_nonneg_right _ (two_zpow_pos _).le
  have hsplit : (2 : ℚ) ^ format.precision = 2 * 2 ^ (format.precision - 1) := by
    rw [← pow_succ']
    congr 1
    omega
  have hone : (1 : ℚ) ≤ 2 ^ (format.precision - 1) := one_le_pow₀ one_le_two
  push_cast
  linarith

theorem limit_le_two_zpow : format.limit ≤ 2 ^ ((format.precision : ℤ) + format.maxExponent) := by
  rw [zpow_add₀ two_ne_zero, zpow_natCast]
  apply mul_le_mul_of_nonneg_right _ (two_zpow_pos _).le
  linarith

theorem limit_pos (hformat : 2 ≤ format.precision) : 0 < format.limit :=
  lt_of_lt_of_le (two_zpow_pos _) (two_zpow_le_limit hformat)

/-- The numbers of a format stay below its limit. -/
theorem InFormat.abs_value_lt {x : Floating format} (h : x.InFormat) : |x.value| < format.limit := by
  obtain ⟨s, m, q, rfl⟩ := h.exists_finite
  obtain ⟨hm, _, hmax⟩ := h
  have hle : (m : ℚ) ≤ 2 ^ format.precision - 1 := by
    have hsucc : (m : ℚ) + 1 ≤ 2 ^ format.precision := by exact_mod_cast hm
    linarith
  show |signed s (m * 2 ^ q)| < _
  rw [abs_signed, abs_of_nonneg (by positivity)]
  calc (m : ℚ) * 2 ^ q ≤ m * 2 ^ format.maxExponent :=
        mul_le_mul_of_nonneg_left (zpow_le_zpow_right₀ one_le_two hmax) (Nat.cast_nonneg m)
    _ ≤ (2 ^ format.precision - 1) * 2 ^ format.maxExponent :=
        mul_le_mul_of_nonneg_right hle (two_zpow_pos _).le
    _ < format.limit := mul_lt_mul_of_pos_right (by linarith) (two_zpow_pos _)

/-- In the unit of the greatest numbers, rounding carries beyond them from the limit on: there the
nearest whole number is a power of two, also in a tie, since the one below is odd. -/
theorem carries_iff (hformat : 2 ≤ format.precision) {m : ℕ} {v : ℚ}
    (hhalf : |(m : ℚ) - v / 2 ^ format.maxExponent| ≤ 1 / 2)
    (htie : |(m : ℚ) - v / 2 ^ format.maxExponent| = 1 / 2 → m % 2 = 0)
    (hle : m ≤ 2 ^ format.precision) : m = 2 ^ format.precision ↔ format.limit ≤ v := by
  have hunits : format.limit ≤ v ↔
      2 ^ format.precision - 1 / 2 ≤ v / 2 ^ format.maxExponent :=
    (le_div_iff₀ (two_zpow_pos _)).symm
  rw [hunits]
  generalize v / 2 ^ format.maxExponent = w at hhalf htie ⊢
  obtain ⟨hlow, hhigh⟩ := abs_le.mp hhalf
  constructor
  · intro hm
    have hm' : (m : ℚ) = 2 ^ format.precision := by exact_mod_cast hm
    linarith
  · intro hw
    by_contra hne
    have hlt : (m : ℚ) + 1 ≤ 2 ^ format.precision := by
      have hlt : m + 1 ≤ 2 ^ format.precision := by omega
      exact_mod_cast hlt
    have htop : (m : ℚ) + 1 = 2 ^ format.precision := by linarith
    have heven := htie (by rw [abs_of_nonpos (by linarith)]; linarith)
    have hnat : m + 1 = 2 ^ format.precision := by exact_mod_cast htop
    have hpow : 2 ^ format.precision = 2 * 2 ^ (format.precision - 1) := by
      rw [← Nat.pow_succ']
      congr 1
      omega
    omega

/-- **What is rounded to infinity** is what reaches the limit of the format. -/
theorem roundRatio_eq_infinite_iff (hformat : 2 ≤ format.precision)
    (hrange : format.minExponent < format.maxExponent) (negative : Bool) {num den : ℕ}
    (hden : 0 < den) :
    roundRatio format negative num den = .infinite negative ↔ format.limit ≤ (num : ℚ) / den := by
  obtain rfl | hnum := Nat.eq_zero_or_pos num
  · rw [Nat.cast_zero, zero_div]
    exact iff_of_false nofun (not_le.mpr (limit_pos hformat))
  obtain ⟨_, hhigh, hlow⟩ := unitExponent_spec format hnum hden
  obtain ⟨m, hm, hround⟩ := roundRatio_eq format negative den hnum.ne'
  rw [hround]
  generalize unitExponent format num den = q at hhigh hlow hm ⊢
  obtain ⟨hunit, hvalue⟩ := inUnits_spec num hden q
  obtain ⟨hhalf, htie⟩ := divNearestEven_spec (inUnits num den q).1 hunit
  have hquotient : ((inUnits num den q).1 : ℚ) / (inUnits num den q).2 = num / den / 2 ^ q := by
    rw [← hvalue, mul_div_cancel_right₀ _ (two_zpow_pos q).ne']
  rw [← hm, hquotient] at hhalf htie
  have hmle : m ≤ 2 ^ format.precision := le_two_pow_of_half hhalf hhigh
  -- Below the greatest unit nothing overflows, and above it everything does.
  obtain hlt | rfl | hgt := lt_trichotomy q format.maxExponent
  · have hbelow : ¬ format.limit ≤ (num : ℚ) / den := by
      refine not_le.mpr (lt_of_lt_of_le hhigh (le_trans ?_ (two_zpow_le_limit hformat)))
      exact zpow_le_zpow_right₀ one_le_two (by omega)
    rw [if_neg (by omega : ¬ format.maxExponent < q + 1),
      if_neg (by omega : ¬ format.maxExponent < q)]
    refine iff_of_false ?_ hbelow
    split <;> exact nofun
  · rw [← carries_iff hformat hhalf htie hmle, if_pos (lt_add_one format.maxExponent),
      if_neg (lt_irrefl format.maxExponent)]
    by_cases hcarry : m = 2 ^ format.precision
    · exact iff_of_true (if_pos hcarry) hcarry
    · rw [if_neg hcarry]
      exact iff_of_false nofun hcarry
  · have hreach : format.limit ≤ (num : ℚ) / den := by
      refine le_trans limit_le_two_zpow (le_trans ?_ (hlow (by omega)))
      exact zpow_le_zpow_right₀ one_le_two (by omega)
    rw [if_pos (by omega : format.maxExponent < q + 1), if_pos hgt]
    refine iff_of_true ?_ hreach
    split <;> rfl

/-! ## Rounding once -/

/-- The sign is kept by rounding, also where the result is zero or infinite. -/
theorem isNegative_roundRatio (format : BinaryFormat) (negative : Bool) (num den : ℕ) :
    (roundRatio format negative num den).isNegative = negative := by
  by_cases hnum : num = 0
  · rw [roundRatio, if_pos hnum]
    rfl
  · obtain ⟨m, _, hround⟩ := roundRatio_eq format negative den hnum
    rw [hround]
    split <;> split <;> rfl

/-- A ratio is rounded to the nearest number of the format, or to infinity from the limit on. -/
theorem roundRatio_cases (hformat : 2 ≤ format.precision)
    (hrange : format.minExponent < format.maxExponent) (negative : Bool) (num : ℕ) {den : ℕ}
    (hden : 0 < den) :
    (format.limit ≤ (num : ℚ) / den ∧ roundRatio format negative num den = .infinite negative) ∨
      ((num : ℚ) / den < format.limit ∧
        (roundRatio format negative num den).IsNearest (signed negative (num / den))) := by
  have hinfinite : roundRatio format negative num den = .infinite negative ↔ _ :=
    roundRatio_eq_infinite_iff hformat hrange negative hden
  by_cases hreach : format.limit ≤ (num : ℚ) / den
  · exact Or.inl ⟨hreach, hinfinite.mpr hreach⟩
  · refine Or.inr ⟨not_le.mp hreach, ?_⟩
    exact isNearest_roundRatio hformat hrange.le negative num hden (mt hinfinite.mp hreach)

/-- **Narrowing a number** rounds it once. -/
theorem narrows_convert (hformat : 2 ≤ target.precision)
    (hrange : target.minExponent < target.maxExponent) {x : Floating format} (hx : x.InFormat) :
    x.Narrows (x.convert target) := by
  obtain ⟨s, m, q, rfl⟩ := hx.exists_finite
  obtain ⟨hden, hratio⟩ := ratio_spec m q
  have hmagnitude : |(Floating.finite s m q : Floating format).value| =
      ((ratio m q).1 : ℚ) / (ratio m q).2 := by
    show |signed s (m * 2 ^ q)| = _
    rw [abs_signed, abs_of_nonneg (by positivity), hratio]
  have hvalue : signed s (((ratio m q).1 : ℚ) / (ratio m q).2) =
      (Floating.finite s m q : Floating format).value := by
    rw [hratio]
    rfl
  refine ⟨isNegative_roundRatio _ _ _ _, ?_, ?_⟩
  · intro hlt
    rw [hmagnitude] at hlt
    obtain ⟨hreach, _⟩ | ⟨_, hnear⟩ := roundRatio_cases hformat hrange s (ratio m q).1 hden
    · exact absurd hreach (not_le.mpr hlt)
    · rw [hvalue] at hnear
      exact hnear
  · intro hreach
    rw [hmagnitude] at hreach
    exact (roundRatio_eq_infinite_iff hformat hrange s hden).mpr hreach

/-- A product is infinite or a number of the format. -/
theorem InFormat.mul (hformat : 2 ≤ format.precision)
    (hrange : format.minExponent < format.maxExponent) {x y : Floating format} (hx : x.InFormat)
    (hy : y.InFormat) (hfinite : (x.mul y).isInfinite = false) : (x.mul y).InFormat := by
  obtain ⟨s, m, q, rfl⟩ := hx.exists_finite
  obtain ⟨s', m', q', rfl⟩ := hy.exists_finite
  obtain ⟨hden, _⟩ := ratio_spec (m * m') (q + q')
  obtain ⟨_, hinf⟩ | ⟨_, hnear⟩ :=
    roundRatio_cases hformat hrange (s != s') (ratio (m * m') (q + q')).1 hden
  · rw [show (finite s m q : Floating format).mul (finite s' m' q') = _ from hinf] at hfinite
    cases hfinite
  · exact hnear.inFormat

/-- A quotient by a number of at least one stays in the format. -/
theorem InFormat.div (hformat : 2 ≤ format.precision)
    (hrange : format.minExponent < format.maxExponent) {x y : Floating format} (hx : x.InFormat)
    (hy : y.InFormat) (hone : 1 ≤ |y.value|) : (x.div y).InFormat := by
  have hlt := hx.abs_value_lt
  obtain ⟨s, m, q, rfl⟩ := hx.exists_finite
  obtain ⟨s', m', q', rfl⟩ := hy.exists_finite
  have hone' : (1 : ℚ) ≤ m' * 2 ^ q' := by
    rw [← abs_of_nonneg (by positivity : (0 : ℚ) ≤ m' * 2 ^ q'), ← abs_signed s']
    exact hone
  have hm' : m' ≠ 0 := by
    rintro rfl
    norm_num at hone'
  obtain ⟨hden, hratio⟩ := ratio_spec m (q - q')
  have hden' : 0 < (ratio m (q - q')).2 * m' := Nat.mul_pos hden (Nat.pos_of_ne_zero hm')
  have hquotient : ((ratio m (q - q')).1 : ℚ) / ((ratio m (q - q')).2 * m' : ℕ) =
      m * 2 ^ q / (m' * 2 ^ q') := by
    rw [Nat.cast_mul, ← div_div, hratio, zpow_sub₀ two_ne_zero]
    field_simp
  have hsmall : ((ratio m (q - q')).1 : ℚ) / ((ratio m (q - q')).2 * m' : ℕ) < format.limit := by
    rw [hquotient]
    refine lt_of_le_of_lt (div_le_self (by positivity) hone') ?_
    rw [← abs_of_nonneg (by positivity : (0 : ℚ) ≤ m * 2 ^ q), ← abs_signed s]
    exact hlt
  have hdiv : (finite s m q : Floating format).div (finite s' m' q') =
      roundRatio format (s != s') (ratio m (q - q')).1 ((ratio m (q - q')).2 * m') := if_neg hm'
  rw [hdiv]
  obtain ⟨hreach, _⟩ | ⟨_, hnear⟩ :=
    roundRatio_cases hformat hrange (s != s') (ratio m (q - q')).1 hden'
  · exact absurd hreach (not_le.mpr hsmall)
  · exact hnear.inFormat

end Floating

end FrameSource
