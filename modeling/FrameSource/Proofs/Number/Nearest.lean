import FrameSource.Number.Floating
import Mathlib

/-!
# Rounding to the nearest

A finite number is a rational number, and a format is the set of rational numbers that its finite
numbers are equal to. `isNearest_roundRatio` says what rounding does: unless the result is infinite,
no number of the format is nearer to the ratio, and of two that are as near the one with the even
significand is taken.

The unit is chosen such that the ratio has as many bits as the format (`unitExponent_spec`); the
nearest multiple of the unit is then nearest among all numbers of the format (`nearest_of_unit`).

Nothing is said here of where infinity begins; that is in `Proofs.Number.Overflow`.
-/

namespace FrameSource.Floating

variable {format : BinaryFormat}

/-! ## Values -/

/-- A magnitude with a sign. -/
def signed (negative : Bool) (v : ℚ) : ℚ :=
  if negative then -v else v

/-- The rational number that a finite number is equal to. -/
def value : Floating format → ℚ
  | .finite s m q => signed s (m * 2 ^ q)
  | _ => 0

/-- A finite number whose significand and exponent the format can hold. -/
def InFormat : Floating format → Prop
  | .finite _ m q =>
    m < 2 ^ format.precision ∧ format.minExponent ≤ q ∧ q ≤ format.maxExponent
  | _ => False

/-- A finite number whose significand has as many bits as the format, unless the exponent cannot
be less. -/
def IsFull : Floating format → Prop
  | .finite _ m q => 2 ^ (format.precision - 1) ≤ m ∨ q = format.minExponent
  | _ => False

/-- A number of the format is nearest to `r` when none is nearer; where another one is as near, it is
the one with the even significand. -/
structure IsNearest (x : Floating format) (r : ℚ) : Prop where
  inFormat : x.InFormat
  full : x.IsFull
  nearest : ∀ y : Floating format, y.InFormat → |x.value - r| ≤ |y.value - r|
  even : ∀ y : Floating format, y.InFormat → |y.value - r| = |x.value - r| → y.value ≠ x.value →
    ∃ s m q, x = .finite s m q ∧ m % 2 = 0

theorem InFormat.exists_finite {x : Floating format} (h : x.InFormat) :
    ∃ s m q, x = .finite s m q := by
  cases x with
  | nan => cases h
  | infinite s => cases h
  | finite s m q => exact ⟨s, m, q, rfl⟩

theorem signed_sub (s : Bool) (v w : ℚ) : |signed s v - signed s w| = |v - w| := by
  cases s with
  | false => rfl
  | true =>
    rw [signed, signed, if_pos rfl, if_pos rfl, ← abs_neg]
    congr 1
    ring

theorem signed_signed (s : Bool) (v : ℚ) : signed s (signed s v) = v := by
  cases s with
  | false => rfl
  | true => exact neg_neg v

theorem two_zpow_pos (q : ℤ) : (0 : ℚ) < 2 ^ q := by positivity

theorem natPow_cast (n : ℕ) : ((Nat.pow 2 n : ℕ) : ℚ) = 2 ^ n := by
  rw [Nat.pow_eq, Nat.cast_pow, Nat.cast_ofNat]

/-- A significand and an exponent as a fraction of two naturals, on which the rounding works. -/
theorem ratio_spec (m : ℕ) (q : ℤ) :
    0 < (ratio m q).2 ∧ ((ratio m q).1 : ℚ) / (ratio m q).2 = m * 2 ^ q := by
  unfold ratio
  by_cases hq : 0 ≤ q
  · rw [if_pos hq]
    refine ⟨Nat.one_pos, ?_⟩
    rw [Nat.cast_mul, natPow_cast, Nat.cast_one, div_one, ← zpow_natCast, Int.toNat_of_nonneg hq]
  · rw [if_neg hq]
    have hneg : (0 : ℤ) ≤ -q := by omega
    refine ⟨Nat.two_pow_pos _, ?_⟩
    rw [natPow_cast, ← zpow_natCast, Int.toNat_of_nonneg hneg, zpow_neg, div_inv_eq_mul]

/-- A fraction counted in units of a power of two, so that rounding to a multiple of it is rounding
to an integer. -/
theorem inUnits_spec (num : ℕ) {den : ℕ} (hden : 0 < den) (q : ℤ) :
    0 < (inUnits num den q).2 ∧
      ((inUnits num den q).1 : ℚ) / (inUnits num den q).2 * 2 ^ q = num / den := by
  have hden' : (den : ℚ) ≠ 0 := Nat.cast_ne_zero.mpr hden.ne'
  have hpow := (two_zpow_pos q).ne'
  unfold inUnits
  by_cases hq : 0 ≤ q
  · rw [if_pos hq]
    refine ⟨Nat.mul_pos hden (Nat.two_pow_pos _), ?_⟩
    rw [Nat.cast_mul, natPow_cast, ← zpow_natCast, Int.toNat_of_nonneg hq]
    field_simp
  · rw [if_neg hq]
    have hneg : (0 : ℤ) ≤ -q := by omega
    refine ⟨hden, ?_⟩
    rw [Nat.cast_mul, natPow_cast, ← zpow_natCast, Int.toNat_of_nonneg hneg, zpow_neg]
    field_simp

/-! ## The nearest whole number -/

/-- Division to the nearest integer, and to the even one of two that are as near. The quotient stays
or goes up by one; at half of the divisor its last bit decides. -/
theorem divNearestEven_spec (a : ℕ) {b : ℕ} (hb : 0 < b) :
    |(divNearestEven a b : ℚ) - a / b| ≤ 1 / 2 ∧
      (|(divNearestEven a b : ℚ) - a / b| = 1 / 2 → divNearestEven a b % 2 = 0) := by
  have hb' : (0 : ℚ) < b := Nat.cast_pos.mpr hb
  have hrest : a % b < b := Nat.mod_lt a hb
  have hdiv : (a : ℚ) / b = (a / b : ℕ) + (a % b : ℕ) / b := by
    rw [div_eq_iff hb'.ne', add_mul, div_mul_cancel₀ _ hb'.ne']
    exact_mod_cast (Nat.div_add_mod' a b).symm
  unfold divNearestEven
  -- Down if less than half is left over, or at half if the quotient is even already.
  by_cases hdown : 2 * (a % b) < b ∨ (2 * (a % b) = b ∧ a / b % 2 = 0)
  · rw [if_pos hdown, hdiv, sub_add_cancel_left, abs_neg, abs_of_nonneg (by positivity)]
    constructor
    · rw [div_le_iff₀ hb']
      have hle : 2 * (a % b) ≤ b := by omega
      have hle' : (2 : ℚ) * (a % b : ℕ) ≤ b := by exact_mod_cast hle
      linarith
    · intro htie
      rw [div_eq_iff hb'.ne'] at htie
      have heq : (2 : ℚ) * (a % b : ℕ) = b := by linarith
      have heq' : 2 * (a % b) = b := by exact_mod_cast heq
      omega
  · rw [if_neg hdown, hdiv]
    have hle : (b : ℚ) ≤ 2 * (a % b : ℕ) := by
      have hle : b ≤ 2 * (a % b) := by omega
      exact_mod_cast hle
    have hlt : ((a % b : ℕ) : ℚ) < b := by exact_mod_cast hrest
    have hup : ((a / b + 1 : ℕ) : ℚ) - ((a / b : ℕ) + (a % b : ℕ) / b) = 1 - (a % b : ℕ) / b := by
      push_cast
      ring
    have hhalf : (1 : ℚ) / 2 ≤ (a % b : ℕ) / b := by
      rw [le_div_iff₀ hb']
      linarith
    have hone : ((a % b : ℕ) : ℚ) / b < 1 := by rwa [div_lt_one hb']
    rw [hup, abs_of_nonneg (by linarith)]
    constructor
    · linarith
    · intro htie
      have hmid : ((a % b : ℕ) : ℚ) / b = 1 / 2 := by linarith
      rw [div_eq_iff hb'.ne'] at hmid
      have heq : (2 : ℚ) * (a % b : ℕ) = b := by linarith
      have heq' : 2 * (a % b) = b := by exact_mod_cast heq
      omega

/-- A whole number within one half of `r` is nearest to it. Another one is as near only at one half
exactly. -/
theorem abs_sub_le_of_half {m k : ℤ} {r : ℚ} (h : |(m : ℚ) - r| ≤ 1 / 2) :
    |(m : ℚ) - r| ≤ |(k : ℚ) - r| ∧ (|(k : ℚ) - r| = |(m : ℚ) - r| → k ≠ m → |(m : ℚ) - r| = 1 / 2) := by
  by_cases hk : k = m
  · subst hk
    exact ⟨le_refl _, fun _ hne => absurd rfl hne⟩
  · have hone : (1 : ℚ) ≤ |(m : ℚ) - k| := by
      have hpos : (1 : ℤ) ≤ |m - k| := Int.one_le_abs (sub_ne_zero.mpr (Ne.symm hk))
      exact_mod_cast hpos
    have htriangle : |(m : ℚ) - k| ≤ |(m : ℚ) - r| + |(k : ℚ) - r| := by
      have := abs_sub_le (m : ℚ) r k
      rwa [abs_sub_comm r] at this
    constructor
    · linarith
    · intro heq _
      linarith

/-! ## Units -/

theorem log2_bounds {n : ℕ} (h : 0 < n) :
    (2 : ℚ) ^ (n.log2 : ℤ) ≤ n ∧ (n : ℚ) < 2 ^ ((n.log2 : ℤ) + 1) := by
  constructor
  · rw [zpow_natCast]
    exact_mod_cast Nat.log2_self_le h.ne'
  · rw [← Nat.cast_succ, zpow_natCast]
    exact_mod_cast Nat.lt_log2_self

/-- The logarithms of the two parts of a fraction bound it up to a factor of two on each side. The
exponent of the unit is settled by one comparison for this reason. -/
theorem ratio_log2_bounds {num den : ℕ} (hnum : 0 < num) (hden : 0 < den) :
    (2 : ℚ) ^ ((num.log2 : ℤ) - den.log2 - 1) ≤ num / den ∧
      (num : ℚ) / den < 2 ^ ((num.log2 : ℤ) - den.log2 + 1) := by
  obtain ⟨hnumLow, hnumHigh⟩ := log2_bounds hnum
  obtain ⟨hdenLow, hdenHigh⟩ := log2_bounds hden
  have hden' : (0 : ℚ) < den := Nat.cast_pos.mpr hden
  constructor
  · rw [le_div_iff₀ hden']
    calc (2 : ℚ) ^ ((num.log2 : ℤ) - den.log2 - 1) * den
        ≤ 2 ^ ((num.log2 : ℤ) - den.log2 - 1) * 2 ^ ((den.log2 : ℤ) + 1) :=
          mul_le_mul_of_nonneg_left hdenHigh.le (two_zpow_pos _).le
      _ = 2 ^ (num.log2 : ℤ) := by
        rw [← zpow_add₀ two_ne_zero]
        congr 1
        ring
      _ ≤ num := hnumLow
  · rw [div_lt_iff₀ hden']
    calc (num : ℚ) < 2 ^ ((num.log2 : ℤ) + 1) := hnumHigh
      _ = 2 ^ ((num.log2 : ℤ) - den.log2 + 1) * 2 ^ (den.log2 : ℤ) := by
        rw [← zpow_add₀ two_ne_zero]
        congr 1
        ring
      _ ≤ 2 ^ ((num.log2 : ℤ) - den.log2 + 1) * den :=
        mul_le_mul_of_nonneg_left hdenLow (two_zpow_pos _).le

/-- Whether a ratio fits into some bits is seen from the whole part of it. -/
theorem inUnits_lt_iff (num : ℕ) {den : ℕ} (hden : 0 < den) (q : ℤ) (bits : ℕ) :
    (inUnits num den q).1 / (inUnits num den q).2 < Nat.pow 2 bits ↔
      (num : ℚ) / den < 2 ^ ((bits : ℤ) + q) := by
  obtain ⟨hunit, hvalue⟩ := inUnits_spec num hden q
  have hunit' : (0 : ℚ) < (inUnits num den q).2 := Nat.cast_pos.mpr hunit
  rw [Nat.div_lt_iff_lt_mul hunit, ← hvalue, zpow_add₀ two_ne_zero,
    mul_lt_mul_iff_left₀ (two_zpow_pos q), div_lt_iff₀ hunit', zpow_natCast, ← natPow_cast,
    ← Nat.cast_mul, Nat.cast_lt]

/-- In the unit that is chosen the significand has no more bits than the format, and if the unit is
not the least one, it has as many. -/
theorem unitExponent_spec (format : BinaryFormat) {num den : ℕ} (hnum : 0 < num) (hden : 0 < den) :
    format.minExponent ≤ unitExponent format num den ∧
    (num : ℚ) / den < 2 ^ ((format.precision : ℤ) + unitExponent format num den) ∧
    (format.minExponent < unitExponent format num den →
      (2 : ℚ) ^ ((format.precision : ℤ) - 1 + unitExponent format num den) ≤ num / den) := by
  obtain ⟨hlow, hhigh⟩ := ratio_log2_bounds hnum hden
  set low : ℤ := (num.log2 : ℤ) - den.log2 - format.precision with hlowDef
  set q : ℤ := max low format.minExponent with hq
  have hunitExponent : unitExponent format num den =
      if (inUnits num den q).1 / (inUnits num den q).2 < Nat.pow 2 format.precision then q
      else q + 1 := rfl
  have hqlow : low ≤ q := le_max_left _ _
  have hqmin : format.minExponent ≤ q := le_max_right _ _
  have hfits := inUnits_lt_iff num hden q format.precision
  -- The logarithms leave two candidates for the unit; the comparison tells which one it is.
  by_cases hc : (inUnits num den q).1 / (inUnits num den q).2 < Nat.pow 2 format.precision
  · rw [hunitExponent, if_pos hc]
    refine ⟨hqmin, hfits.mp hc, ?_⟩
    intro hmin
    have hqeq : q = low := by omega
    refine le_trans ?_ hlow
    apply zpow_le_zpow_right₀ one_le_two
    omega
  · rw [hunitExponent, if_neg hc]
    refine ⟨by omega, ?_, ?_⟩
    · refine lt_of_lt_of_le hhigh ?_
      apply zpow_le_zpow_right₀ one_le_two
      omega
    · intro _
      have hge := not_lt.mp fun h => hc (hfits.mpr h)
      refine le_trans (le_of_eq ?_) hge
      congr 1
      ring

/-! ## Rounding -/

theorem signed_le (s : Bool) {v : ℚ} (hv : 0 ≤ v) : signed s v ≤ v := by
  cases s with
  | false => exact le_refl v
  | true => exact le_trans (neg_nonpos.mpr hv) hv

theorem exists_multiple {q q' : ℤ} (h : q ≤ q') (s : Bool) (m : ℕ) :
    ∃ k : ℤ, signed s (m * 2 ^ q') = k * 2 ^ q := by
  have hmagnitude : (m : ℚ) * 2 ^ q' = (m * 2 ^ (q' - q).toNat : ℤ) * 2 ^ q := by
    have hsplit : (2 : ℚ) ^ q' = 2 ^ (q' - q).toNat * 2 ^ q := by
      rw [← zpow_natCast, ← zpow_add₀ two_ne_zero]
      congr 1
      omega
    rw [hsplit]
    push_cast
    ring
  cases s with
  | false => exact ⟨_, hmagnitude⟩
  | true =>
    refine ⟨-(m * 2 ^ (q' - q).toNat : ℤ), ?_⟩
    show -((m : ℚ) * 2 ^ q') = _
    rw [hmagnitude, Int.cast_neg, neg_mul]

/-- A multiple of the unit within half of it is nearest among all multiples. -/
theorem nearest_multiple {m k q : ℤ} {v : ℚ} (hm : |(m : ℚ) - v / 2 ^ q| ≤ 1 / 2) :
    |m * 2 ^ q - v| ≤ |k * 2 ^ q - v| ∧
      (|k * 2 ^ q - v| = |m * 2 ^ q - v| → (k : ℚ) * 2 ^ q ≠ m * 2 ^ q →
        |(m : ℚ) - v / 2 ^ q| = 1 / 2) := by
  have hpow := two_zpow_pos q
  have hscale : ∀ w : ℚ, |w * 2 ^ q - v| = |w - v / 2 ^ q| * 2 ^ q := by
    intro w
    rw [← abs_of_pos hpow, ← abs_mul, abs_of_pos hpow, sub_mul, div_mul_cancel₀ _ hpow.ne']
  obtain ⟨hle, htie⟩ := abs_sub_le_of_half (k := k) hm
  rw [hscale, hscale]
  refine ⟨mul_le_mul_of_nonneg_right hle hpow.le, ?_⟩
  intro heq hne
  refine htie (mul_right_cancel₀ hpow.ne' heq) ?_
  rintro rfl
  exact hne rfl

/-- A number with a smaller unit lies below every number that has as many bits as the format. -/
theorem signed_lt_of_exponent_lt (s : Bool) {m : ℕ} {q q' : ℤ} (hm : m < 2 ^ format.precision)
    (hq : q' < q) : signed s (m * 2 ^ q') < 2 ^ ((format.precision : ℤ) - 1 + q) := by
  calc signed s (m * 2 ^ q') ≤ m * 2 ^ q' := signed_le s (by positivity)
    _ < 2 ^ (format.precision : ℤ) * 2 ^ q' := by
      refine mul_lt_mul_of_pos_right ?_ (two_zpow_pos q')
      rw [zpow_natCast]
      exact_mod_cast hm
    _ = 2 ^ ((format.precision : ℤ) + q') := (zpow_add₀ two_ne_zero _ _).symm
    _ ≤ 2 ^ ((format.precision : ℤ) - 1 + q) := zpow_le_zpow_right₀ one_le_two (by omega)

theorem two_pow_precision_mul (hformat : 1 ≤ format.precision) (q : ℤ) :
    ((2 ^ (format.precision - 1) : ℤ) : ℚ) * 2 ^ q = 2 ^ ((format.precision : ℤ) - 1 + q) := by
  rw [zpow_add₀ two_ne_zero]
  congr 1
  rw [Int.cast_pow, Int.cast_ofNat, ← zpow_natCast, Nat.cast_sub hformat, Nat.cast_one]

/-- A multiple of the unit within half of it is nearest among all numbers of the format: what has a
greater unit is a multiple as well, and what has a smaller one lies too far below. -/
theorem nearest_of_unit (hformat : 1 ≤ format.precision) {m : ℕ} {q : ℤ} {v : ℚ}
    (hm : |(m : ℚ) - v / 2 ^ q| ≤ 1 / 2)
    (hfull : format.minExponent < q → (2 : ℚ) ^ ((format.precision : ℤ) - 1 + q) ≤ v)
    {y : Floating format} (hy : y.InFormat) :
    |m * 2 ^ q - v| ≤ |y.value - v| ∧
      (|y.value - v| = |m * 2 ^ q - v| → y.value ≠ m * 2 ^ q → |(m : ℚ) - v / 2 ^ q| = 1 / 2) := by
  have hmultiple : ∀ k : ℤ, |m * 2 ^ q - v| ≤ |k * 2 ^ q - v| ∧
      (|k * 2 ^ q - v| = |m * 2 ^ q - v| → (k : ℚ) * 2 ^ q ≠ m * 2 ^ q →
        |(m : ℚ) - v / 2 ^ q| = 1 / 2) := by
    intro k
    have hnear := nearest_multiple (m := m) (k := k) (v := v) (q := q) (by rwa [Int.cast_natCast])
    rwa [Int.cast_natCast] at hnear
  obtain ⟨s, m', q', rfl⟩ := hy.exists_finite
  obtain ⟨hm', hmin, _⟩ := hy
  show _ ≤ |signed s (m' * 2 ^ q') - v| ∧ (|signed s (m' * 2 ^ q') - v| = _ →
    signed s (m' * 2 ^ q') ≠ _ → _)
  -- Numbers with a smaller unit all lie below the least full significand in this one.
  by_cases hle : q ≤ q'
  · obtain ⟨k, hk⟩ := exists_multiple hle s m'
    rw [hk]
    exact hmultiple k
  · have hbelow := signed_lt_of_exponent_lt s hm' (not_le.mp hle)
    have hv := hfull (by omega)
    have hstrict : |m * 2 ^ q - v| < |signed s (m' * 2 ^ q') - v| := by
      calc |m * 2 ^ q - v| ≤ |((2 ^ (format.precision - 1) : ℤ) : ℚ) * 2 ^ q - v| :=
            (hmultiple _).1
        _ = v - 2 ^ ((format.precision : ℤ) - 1 + q) := by
          rw [two_pow_precision_mul hformat, abs_sub_comm, abs_of_nonneg (sub_nonneg.mpr hv)]
        _ < v - signed s (m' * 2 ^ q') := sub_lt_sub_left hbelow v
        _ ≤ |signed s (m' * 2 ^ q') - v| := by
          rw [abs_sub_comm]
          exact le_abs_self _
    exact ⟨hstrict.le, fun heq => absurd heq hstrict.ne'⟩

/-- Rounding takes the nearest multiple of the unit, which may be the first power of two that has one
bit more than the format. -/
theorem roundRatio_eq (format : BinaryFormat) (negative : Bool) {num : ℕ} (den : ℕ) (hnum : num ≠ 0) :
    ∃ m, m = divNearestEven (inUnits num den (unitExponent format num den)).1
        (inUnits num den (unitExponent format num den)).2 ∧
      roundRatio format negative num den =
        if m = 2 ^ format.precision then
          if format.maxExponent < unitExponent format num den + 1 then .infinite negative
          else .finite negative (m / 2) (unitExponent format num den + 1)
        else if format.maxExponent < unitExponent format num den then .infinite negative
        else .finite negative m (unitExponent format num den) := by
  refine ⟨_, rfl, ?_⟩
  unfold roundRatio
  rw [if_neg hnum]
  simp only [Nat.pow_eq]
  split <;> rfl

/-- What a ratio is rounded to, if it is finite: a multiple of the unit within half of it, written
with a significand of the format. -/
structure Rounds (format : BinaryFormat) (v : ℚ) (m : ℕ) (q : ℤ) : Prop where
  fits : m < 2 ^ format.precision ∧ format.minExponent ≤ q
  full : 2 ^ (format.precision - 1) ≤ m ∨ q = format.minExponent
  multiple : ∃ (m' : ℕ) (q' : ℤ), (m : ℚ) * 2 ^ q = m' * 2 ^ q' ∧
    |(m' : ℚ) - v / 2 ^ q'| ≤ 1 / 2 ∧ (|(m' : ℚ) - v / 2 ^ q'| = 1 / 2 → m % 2 = 0) ∧
    (format.minExponent < q' → (2 : ℚ) ^ ((format.precision : ℤ) - 1 + q') ≤ v)

theorem le_two_pow_of_half {m bits : ℕ} {q : ℤ} {v : ℚ} (hm : |(m : ℚ) - v / 2 ^ q| ≤ 1 / 2)
    (hv : v < 2 ^ ((bits : ℤ) + q)) : m ≤ 2 ^ bits := by
  have hupper : v / 2 ^ q < (2 ^ bits : ℕ) := by
    rwa [div_lt_iff₀ (two_zpow_pos q), Nat.cast_pow, Nat.cast_ofNat, ← zpow_natCast,
      ← zpow_add₀ two_ne_zero]
  have hle := (abs_le.mp hm).2
  have hlt : (m : ℚ) < (2 ^ bits : ℕ) + 1 := by linarith
  exact Nat.lt_succ_iff.mp (by exact_mod_cast hlt)

/-- Rounding does not take a value at or above a power of two below it. -/
theorem two_pow_le_of_half {m bits : ℕ} {q : ℤ} {v : ℚ} (hm : |(m : ℚ) - v / 2 ^ q| ≤ 1 / 2)
    (hv : (2 : ℚ) ^ ((bits : ℤ) + q) ≤ v) : 2 ^ bits ≤ m := by
  have hlower : ((2 ^ bits : ℕ) : ℚ) ≤ v / 2 ^ q := by
    rwa [le_div_iff₀ (two_zpow_pos q), Nat.cast_pow, Nat.cast_ofNat, ← zpow_natCast,
      ← zpow_add₀ two_ne_zero]
  have hle := (abs_le.mp hm).1
  have hgt : ((2 ^ bits : ℕ) : ℚ) < m + 1 := by linarith
  exact Nat.lt_succ_iff.mp (by exact_mod_cast hgt)

/-- What rounding yields, infinite or finite. Rounding up to a full power of two carries into the
exponent, and that case is told apart since the significand is then halved. -/
theorem rounds_of_roundRatio (hformat : 2 ≤ format.precision) (negative : Bool) {num den : ℕ}
    (hnum : 0 < num) (hden : 0 < den) :
    roundRatio format negative num den = .infinite negative ∨
      ∃ m q, roundRatio format negative num den = .finite negative m q ∧
        q ≤ format.maxExponent ∧ Rounds format (num / den) m q := by
  obtain ⟨hmin, hhigh, hlow⟩ := unitExponent_spec format hnum hden
  obtain ⟨m, hm, hround⟩ := roundRatio_eq format negative den hnum.ne'
  rw [hround]
  generalize unitExponent format num den = q at hmin hhigh hlow hm ⊢
  obtain ⟨hunit, hvalue⟩ := inUnits_spec num hden q
  obtain ⟨hhalf, htie⟩ := divNearestEven_spec (inUnits num den q).1 hunit
  have hquotient : ((inUnits num den q).1 : ℚ) / (inUnits num den q).2 = num / den / 2 ^ q := by
    rw [← hvalue, mul_div_cancel_right₀ _ (two_zpow_pos q).ne']
  rw [← hm, hquotient] at hhalf htie
  have hmle : m ≤ 2 ^ format.precision := le_two_pow_of_half hhalf hhigh
  have hfull : format.minExponent < q → 2 ^ (format.precision - 1) ≤ m := by
    intro hlt
    apply two_pow_le_of_half hhalf
    rw [Nat.cast_sub (by omega), Nat.cast_one]
    exact hlow hlt
  -- Rounding up may yield one bit too many; the significand is halved then, and nothing is lost.
  by_cases hcarry : m = 2 ^ format.precision
  · rw [if_pos hcarry]
    split
    · exact Or.inl rfl
    · next hmax =>
      have hsplit : 2 ^ format.precision = 2 * 2 ^ (format.precision - 1) := by
        rw [← Nat.pow_succ']
        congr 1
        omega
      have hhalved : m / 2 = 2 ^ (format.precision - 1) := by omega
      have hpos : 0 < 2 ^ (format.precision - 1) := Nat.two_pow_pos _
      refine Or.inr ⟨_, _, rfl, by omega, ⟨by omega, by omega⟩, Or.inl hhalved.ge, m, q, ?_, hhalf,
        ?_, hlow⟩
      · rw [hhalved, hcarry, hsplit, zpow_add_one₀ two_ne_zero]
        push_cast
        ring
      · intro _
        have hsplit' : 2 ^ (format.precision - 1) = 2 * 2 ^ (format.precision - 2) := by
          rw [← Nat.pow_succ']
          congr 1
          omega
        omega
  · rw [if_neg hcarry]
    split
    · exact Or.inl rfl
    · next hmax =>
      have hfullOr : 2 ^ (format.precision - 1) ≤ m ∨ q = format.minExponent := by
        by_cases hlt : format.minExponent < q
        · exact Or.inl (hfull hlt)
        · exact Or.inr (by omega)
      exact Or.inr ⟨m, q, rfl, by omega, ⟨by omega, hmin⟩, hfullOr, m, q, rfl, hhalf, htie, hlow⟩

theorem value_neg (x : Floating format) : x.neg.value = -x.value := by
  cases x with
  | nan => exact neg_zero.symm
  | infinite s => exact neg_zero.symm
  | finite s m q =>
    cases s with
    | false => rfl
    | true => exact (neg_neg _).symm

theorem InFormat.neg {x : Floating format} (h : x.InFormat) : x.neg.InFormat := by
  cases x with
  | nan => exact h
  | infinite s => exact h
  | finite s m q => exact h

theorem IsFull.neg {x : Floating format} (h : x.IsFull) : x.neg.IsFull := by
  cases x with
  | nan => exact h
  | infinite s => exact h
  | finite s m q => exact h

theorem InFormat.exists_signed (s : Bool) {x : Floating format} (h : x.InFormat) :
    ∃ y : Floating format, y.InFormat ∧ y.value = signed s x.value := by
  cases s with
  | false => exact ⟨x, h, rfl⟩
  | true => exact ⟨x.neg, h.neg, value_neg x⟩

/-- Zero is exact, with either sign. -/
theorem isNearest_zero (hrange : format.minExponent ≤ format.maxExponent) (s : Bool) :
    (zero s : Floating format).IsNearest 0 := by
  have hvalue : (zero s : Floating format).value = 0 := by
    cases s <;> simp [zero, value, signed]
  refine ⟨⟨Nat.two_pow_pos _, le_refl _, hrange⟩, Or.inr rfl, ?_, ?_⟩
  · intro y _
    rw [hvalue, sub_self, abs_zero]
    exact abs_nonneg _
  · intro y _ _ _
    exact ⟨s, 0, format.minExponent, rfl, rfl⟩

/-- **Rounding goes to the nearest.** What a ratio is rounded to is the nearest number of the format,
unless it is infinite. -/
theorem isNearest_roundRatio (hformat : 2 ≤ format.precision)
    (hrange : format.minExponent ≤ format.maxExponent) (negative : Bool) (num : ℕ) {den : ℕ}
    (hden : 0 < den) (hfinite : roundRatio format negative num den ≠ .infinite negative) :
    (roundRatio format negative num den).IsNearest (signed negative (num / den)) := by
  obtain rfl | hnum := Nat.eq_zero_or_pos num
  · have hzero : signed negative (((0 : ℕ) : ℚ) / den) = 0 := by
      cases negative <;> simp [signed]
    rw [hzero]
    exact isNearest_zero hrange negative
  · obtain hinf | ⟨m, q, hround, hmax, hm⟩ := rounds_of_roundRatio hformat negative hnum hden
    · exact absurd hinf hfinite
    · obtain ⟨m', q', hvalue, hhalf, htie, hfull⟩ := hm.multiple
      rw [hround]
      -- the sign of the result is given to the others instead
      have hnear : ∀ y : Floating format, y.InFormat → ∃ y' : Floating format,
          y'.InFormat ∧ y'.value = signed negative y.value ∧
            |y.value - signed negative (num / den)| = |y'.value - num / den| := by
        intro y hy
        obtain ⟨y', hy', hsigned⟩ := hy.exists_signed negative
        refine ⟨y', hy', hsigned, ?_⟩
        rw [hsigned, ← signed_sub negative (signed negative y.value), signed_signed]
      have hown : |(Floating.finite negative m q : Floating format).value -
          signed negative (num / den)| = |m' * 2 ^ q' - (num : ℚ) / den| := by
        rw [← hvalue]
        exact signed_sub negative _ _
      refine ⟨⟨hm.fits.1, hm.fits.2, hmax⟩, hm.full, ?_, ?_⟩
      · intro y hy
        obtain ⟨y', hy', _, hdistance⟩ := hnear y hy
        rw [hown, hdistance]
        exact (nearest_of_unit (by omega) hhalf hfull hy').1
      · intro y hy htied hne
        obtain ⟨y', hy', hsigned, hdistance⟩ := hnear y hy
        rw [hown, hdistance] at htied
        refine ⟨negative, m, q, rfl, htie ((nearest_of_unit (by omega) hhalf hfull hy').2 htied ?_)⟩
        intro heq
        apply hne
        rw [← signed_signed negative y.value, ← hsigned, heq, ← hvalue]
        rfl

/-- What lies well below the greatest power of two of the format is not rounded to infinity. -/
theorem roundRatio_ne_infinite (hrange : format.minExponent < format.maxExponent) (negative : Bool)
    {num den : ℕ} (hden : 0 < den)
    (h : (num : ℚ) / den < 2 ^ ((format.precision : ℤ) - 1 + format.maxExponent)) :
    roundRatio format negative num den ≠ .infinite negative := by
  obtain rfl | hnum := Nat.eq_zero_or_pos num
  · intro hzero
    cases hzero
  · obtain ⟨_, _, hlow⟩ := unitExponent_spec format hnum hden
    have hunit : unitExponent format num den < format.maxExponent := by
      by_cases hmin : format.minExponent < unitExponent format num den
      · have hlt := lt_of_le_of_lt (hlow hmin) h
        have := (zpow_lt_zpow_iff_right₀ one_lt_two).mp hlt
        omega
      · omega
    obtain ⟨m, _, hround⟩ := roundRatio_eq format negative den hnum.ne'
    have hcarried : ¬ format.maxExponent < unitExponent format num den + 1 := by omega
    have hplain : ¬ format.maxExponent < unitExponent format num den := by omega
    rw [hround, if_neg hcarried, if_neg hplain]
    intro hinf
    split at hinf <;> cases hinf

end FrameSource.Floating
