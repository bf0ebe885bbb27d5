import FrameSource.Proofs.Number.Arithmetic

/-!
# Whole numbers as doubles

Every whole number up to `2 ^ 53` is a double, and so is every such number times a power of two.
The nearest double to a greater one is still whole, because from `2 ^ 53` on every double is.
-/

namespace FrameSource.Floating

theorem signed_natAbs (n : ℤ) : signed (decide (n < 0)) n.natAbs = n := by
  by_cases hn : n < 0
  · rw [decide_eq_true hn, signed, if_pos rfl, Nat.cast_natAbs, abs_of_neg hn, Int.cast_neg, neg_neg]
  · rw [decide_eq_false hn, signed, if_neg Bool.false_ne_true, Nat.cast_natAbs,
      abs_of_nonneg (not_lt.mp hn)]

/-- A whole number of fewer than 54 bits times a power of two is a double. -/
theorem exists_value_eq {n : ℤ} (hn : n.natAbs < 2 ^ 53) {k : ℕ} (hk : k ≤ 971) :
    ∃ y : Double, y.InFormat ∧ y.value = ((n * 2 ^ k : ℤ) : ℚ) := by
  refine ⟨.finite (decide (n < 0)) n.natAbs k, ⟨hn, ?_, ?_⟩, ?_⟩
  · show (-1074 : ℤ) ≤ k
    omega
  · show (k : ℤ) ≤ 971
    omega
  · have hscale : ∀ s : Bool, ∀ v w : ℚ, signed s (v * w) = signed s v * w := by
      intro s v w
      cases s with
      | false => rfl
      | true => exact (neg_mul v w).symm
    show signed _ _ = _
    rw [hscale, signed_natAbs, zpow_natCast]
    push_cast
    rfl

/-- The double of a whole number is the nearest one. -/
theorem isNearest_ofInt {n : ℤ} (hn : n.natAbs < 2 ^ 128) :
    (ofInt .double n).IsNearest n := by
  have hvalue : (n : ℚ) = signed (decide (n < 0)) ((n.natAbs : ℚ) / (1 : ℕ)) := by
    rw [Nat.cast_one, div_one, signed_natAbs]
  rw [hvalue]
  apply isNearest_roundRatio (by decide) (by decide) _ _ Nat.one_pos
  apply roundRatio_ne_infinite (by decide) _ Nat.one_pos
  rw [Nat.cast_one, div_one]
  calc (n.natAbs : ℚ) < 2 ^ (128 : ℤ) := by exact_mod_cast hn
    _ ≤ 2 ^ ((BinaryFormat.double.precision : ℤ) - 1 + BinaryFormat.double.maxExponent) :=
      zpow_le_zpow_right₀ one_le_two (by decide)

/-- An integer with a short odd part is an exact double, though it may have many digits. -/
theorem value_ofInt_mul {m : ℤ} {k : ℕ} (hm : m.natAbs < 2 ^ 53) (hk : k ≤ 64) :
    (ofInt .double (m * 2 ^ k)).value = ((m * 2 ^ k : ℤ) : ℚ) := by
  obtain ⟨y, hy, hvalue⟩ := exists_value_eq hm (show k ≤ 971 by omega)
  refine (isNearest_ofInt ?_).value_eq hy hvalue
  have hpow : (2 : ℕ) ^ k ≤ 2 ^ 64 := Nat.pow_le_pow_right (by decide) hk
  calc (m * 2 ^ k).natAbs = m.natAbs * 2 ^ k := by rw [Int.natAbs_mul, Int.natAbs_pow]; rfl
    _ ≤ 2 ^ 53 * 2 ^ 64 := Nat.mul_le_mul hm.le hpow
    _ < 2 ^ 128 := by decide

/-- Up to `2 ^ 53` the double of a whole number is equal to it. -/
theorem value_ofInt {n : ℤ} (hn : n.natAbs ≤ 2 ^ 53) : (ofInt .double n).value = n := by
  by_cases hlt : n.natAbs < 2 ^ 53
  · simpa using value_ofInt_mul hlt (show 0 ≤ 64 by decide)
  · obtain rfl | rfl : n = 2 ^ 52 * 2 ^ 1 ∨ n = -2 ^ 52 * 2 ^ 1 := by omega
    · exact value_ofInt_mul (by decide) (by decide)
    · exact value_ofInt_mul (by decide) (by decide)

/-- The double of a whole number lies between any two doubles around that number. -/
theorem value_ofInt_mem {n a b : ℤ} (hn : n.natAbs < 2 ^ 128) (ha : a ≤ n) (hb : n ≤ b)
    (hlow : ∃ y : Double, y.InFormat ∧ y.value = a)
    (hhigh : ∃ y : Double, y.InFormat ∧ y.value = b) :
    a ≤ (ofInt .double n).value ∧ (ofInt .double n).value ≤ b := by
  obtain ⟨y, hy, hya⟩ := hlow
  obtain ⟨z, hz, hzb⟩ := hhigh
  have hnear := isNearest_ofInt hn
  constructor
  · rw [← hya]
    exact hnear.le_value hy (by rw [hya]; exact_mod_cast ha)
  · rw [← hzb]
    exact hnear.value_le hz (by rw [hzb]; exact_mod_cast hb)

/-- A double nearest to an integer of the machine's range may reach its upper end, which is one too
great for the range. -/
theorem value_ofInt_mem_int64 {n d : ℤ} (hn : -2 ^ 63 ≤ n ∧ n < 2 ^ 63)
    (hd : (ofInt .double n).value = d) : -2 ^ 63 ≤ d ∧ d ≤ 2 ^ 63 := by
  have hmem := value_ofInt_mem (n := n) (a := -1 * 2 ^ 63) (b := 1 * 2 ^ 63) (by omega) (by omega)
    (by omega) (exists_value_eq (by decide) (by decide)) (exists_value_eq (by decide) (by decide))
  rw [hd] at hmem
  have hlow : -1 * 2 ^ 63 ≤ d := by exact_mod_cast hmem.1
  have hhigh : d ≤ 1 * 2 ^ 63 := by exact_mod_cast hmem.2
  omega

/-- Beyond `2 ^ 53` the double of a whole number is not less. -/
theorem le_abs_value_ofInt {n : ℤ} (hn : n.natAbs < 2 ^ 128) (hlarge : 2 ^ 53 ≤ n.natAbs) :
    (2 : ℚ) ^ 53 ≤ |(ofInt .double n).value| := by
  have hnear := isNearest_ofInt hn
  obtain ⟨y, hy, hvalue⟩ := exists_value_eq (n := 2 ^ 52) (by decide) (show 1 ≤ 971 by decide)
  have hvalue' : y.value = 2 ^ 53 := by
    rw [hvalue]
    norm_num
  obtain hpos | hneg : (2 ^ 53 : ℤ) ≤ n ∨ n ≤ -2 ^ 53 := by omega
  · have hle := hnear.le_value hy (by rw [hvalue']; exact_mod_cast hpos)
    rw [hvalue'] at hle
    exact hle.trans (le_abs_self _)
  · have hle := hnear.value_le hy.neg (by rw [value_neg, hvalue']; exact_mod_cast hneg)
    rw [value_neg, hvalue'] at hle
    exact (le_neg_of_le_neg hle).trans (neg_le_abs _)

/-- A double of `2 ^ 53` or more needs a unit of at least one. -/
theorem exists_int_value_of_le_abs {x : Double} (hx : x.InFormat) (hlarge : 2 ^ 53 ≤ |x.value|) :
    ∃ d : ℤ, x.value = d := by
  obtain ⟨s, m, q, rfl⟩ := hx.exists_finite
  have hlarge' : (2 : ℚ) ^ 53 ≤ m * 2 ^ q := by
    rw [← abs_of_nonneg (by positivity : (0 : ℚ) ≤ m * 2 ^ q), ← abs_signed s]
    exact hlarge
  have hq : 0 ≤ q := by
    by_contra hneg
    have hm : (m : ℚ) < 2 ^ 53 := by exact_mod_cast hx.1
    have hunit : (2 : ℚ) ^ q ≤ 1 := zpow_le_one_of_nonpos₀ one_le_two (by omega)
    have hle : (m : ℚ) * 2 ^ q ≤ m * 1 := mul_le_mul_of_nonneg_left hunit (Nat.cast_nonneg m)
    linarith
  obtain ⟨k, hk⟩ := exists_multiple hq s m
  exact ⟨k, hk.trans (by rw [zpow_zero, mul_one])⟩

/-- The double of a whole number is whole. -/
theorem exists_int_value_ofInt {n : ℤ} (hn : n.natAbs < 2 ^ 128) :
    ∃ d : ℤ, (ofInt .double n).value = d := by
  by_cases hsmall : n.natAbs ≤ 2 ^ 53
  · exact ⟨n, value_ofInt hsmall⟩
  · exact exists_int_value_of_le_abs (isNearest_ofInt hn).inFormat
      (le_abs_value_ofInt hn (by omega))

/-- The double `2 ^ 63` has one form. -/
theorem eq_of_value_eq_two_pow_63 {x : Double} {r : ℚ} (hx : x.IsNearest r)
    (h : x.value = 2 ^ 63) : x = .finite false (2 ^ 52) 11 := by
  refine eq_of_value_eq hx.inFormat hx.full ⟨by decide, by decide, by decide⟩ (Or.inl (by decide)) ?_ ?_
  · rw [h]
    norm_num [value, signed]
  · rw [h]
    norm_num

end FrameSource.Floating
