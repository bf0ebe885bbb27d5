import FrameSource.Datasource.Instance
import FrameSource.Proofs.Json.Held

/-!
# What written numbers are read as

A written number has an exact value. A whole number within 64 bits, and a number with at most
`2 ^ 53` for its digits and a power of ten that is a double itself, are read as the double that is
nearest to it. Other numbers are rounded more than once, and may be read as another double.
-/

namespace FrameSource.Json

open Floating (signed)

namespace Numeral

/-- All digits of a number, without its point. -/
def digits (n : Numeral) : ℕ :=
  Text.natOfDigits (n.whole ++ n.fraction)

/-- The exponent as it is written. -/
def written (n : Numeral) : ℤ :=
  match n.exponent with
  | none => 0
  | some (below, digits) =>
    if below then -(Text.natOfDigits digits : ℤ) else Text.natOfDigits digits

/-- The power of ten that the digits are a multiple of. -/
def power (n : Numeral) : ℤ :=
  n.written - n.fraction.length

/-- The number that is written. -/
def value (n : Numeral) : ℚ :=
  signed n.negative (n.digits * 10 ^ n.power)

/-- A whole number of at most 64 bits, written without a point and without an exponent. -/
structure IsWhole (n : Numeral) : Prop where
  fraction : n.fraction = []
  exponent : n.exponent = none
  digits_lt : n.digits < collectLimit

/-- A number whose digits and whose power of ten are doubles. -/
structure IsShort (n : Numeral) : Prop where
  digits_le : n.digits ≤ 2 ^ 53
  power_le : n.power.natAbs ≤ 22
  written_le : n.written.natAbs ≤ exponentLimit

end Numeral

/-! ## Collecting digits -/

theorem le_ofDigitChars (cs : List Char) (n : ℕ) : n ≤ Nat.ofDigitChars 10 cs n := by
  induction cs generalizing n with
  | nil => exact le_refl n
  | cons c cs ih =>
    refine le_trans ?_ (ih (10 * n + (c.toNat - '0'.toNat)))
    omega

theorem collectDigits_of_lt (cs : List Char) (n : ℕ) (h : Nat.ofDigitChars 10 cs n < collectLimit) :
    collectDigits n cs = (Nat.ofDigitChars 10 cs n, []) := by
  induction cs generalizing n with
  | nil => rfl
  | cons c cs ih =>
    have hnext : 10 * n + (c.toNat - '0'.toNat) < collectLimit :=
      lt_of_le_of_lt (le_ofDigitChars cs _) h
    unfold collectDigits
    exact (if_pos hnext).trans (ih _ h)

/-- Short digits and a small exponent are read by the scale alone, without any of the cases for long
numerals. -/
theorem Numeral.double?_eq {n : Numeral} (hdigits : n.digits < collectLimit)
    (hwritten : n.written.natAbs ≤ exponentLimit) :
    n.double? = Json.double? n.negative n.digits n.power := by
  have happend : n.digits = Nat.ofDigitChars 10 n.fraction (Nat.ofDigitChars 10 n.whole 0) :=
    List.foldl_append
  -- The digits before the point are no more than all of them, so none is dropped.
  have hwhole : collectDigits 0 n.whole = (Nat.ofDigitChars 10 n.whole 0, []) := by
    apply collectDigits_of_lt
    exact lt_of_le_of_lt (le_ofDigitChars n.fraction _) (happend ▸ hdigits)
  have hfraction : collectDigits (Nat.ofDigitChars 10 n.whole 0) n.fraction = (n.digits, []) := by
    rw [happend]
    exact collectDigits_of_lt _ _ (happend ▸ hdigits)
  have hplaces : (([] : List Char).length : ℤ) - (n.fraction.length - ([] : List Char).length) =
      -n.fraction.length := by
    simp
  unfold double?
  simp only [hwhole, hfraction, hplaces]
  unfold power
  unfold written at hwritten ⊢
  cases hexp : n.exponent with
  | none =>
    simp only [zero_sub]
  | some e =>
    obtain ⟨below, es⟩ := e
    simp only [hexp] at hwritten ⊢
    have hlimit : ¬ exponentLimit < Text.natOfDigits es := by
      cases below <;> simp at hwritten <;> omega
    rw [if_neg hlimit]
    congr 1
    ring

/-! ## Scaling by a power of ten -/

/-- The powers of ten up to the twenty-second are exact doubles, since their odd part fits the
precision. -/
theorem value_powerOfTen {k : ℕ} (hk : k ≤ 22) :
    (powerOfTen k).InFormat ∧ (powerOfTen k).value = 10 ^ k := by
  have hfive : (5 : ℕ) ^ k < 2 ^ 53 :=
    lt_of_le_of_lt (Nat.pow_le_pow_right (by decide) hk) (by decide)
  have hten : ((Nat.pow 10 k : ℕ) : ℤ) = 5 ^ k * 2 ^ k := by
    rw [← mul_pow]
    exact_mod_cast rfl
  have hlt : ((Nat.pow 10 k : ℕ) : ℤ).natAbs < 2 ^ 128 := by
    rw [Int.natAbs_natCast]
    exact lt_of_le_of_lt (Nat.pow_le_pow_right (by decide) hk) (by decide)
  refine ⟨(Floating.isNearest_ofInt hlt).inFormat, ?_⟩
  unfold powerOfTen
  rw [hten, Floating.value_ofInt_mul (by rwa [Int.natAbs_pow]) (by omega), ← mul_pow]
  norm_num

theorem natCast_lt_format {w : ℕ} (hw : w < 2 ^ 128) :
    |(w : ℚ)| < 2 ^ ((BinaryFormat.double.precision : ℤ) - 1 + BinaryFormat.double.maxExponent) := by
  rw [abs_of_nonneg (Nat.cast_nonneg w)]
  calc (w : ℚ) < 2 ^ (128 : ℤ) := by exact_mod_cast hw
    _ ≤ _ := zpow_le_zpow_right₀ one_le_two (by decide)

/-- One multiplication of two exact doubles rounds once, so it gives the nearest double of the
product. -/
theorem scale?_of_nonneg {x : Double} {k : ℕ} (hx : x.InFormat) {w : ℕ} (hvalue : x.value = w)
    (hw : w ≤ 2 ^ 53) (hk : k ≤ 22) :
    ∃ y, scale? x k = some y ∧ y.IsNearest (w * 10 ^ k) := by
  obtain ⟨hin, hpower⟩ := value_powerOfTen hk
  have hnear : (x.mul (powerOfTen k)).IsNearest (w * 10 ^ k) := by
    rw [← hvalue, ← hpower]
    apply Floating.isNearest_mul (by decide) (by decide) hx hin
    rw [hvalue, hpower]
    have hlt : w * 10 ^ k < 2 ^ 128 := by
      calc w * 10 ^ k ≤ 2 ^ 53 * 10 ^ 22 :=
            Nat.mul_le_mul hw (Nat.pow_le_pow_right (by decide) hk)
        _ < 2 ^ 128 := by decide
    exact_mod_cast natCast_lt_format hlt
  refine ⟨_, ?_, hnear⟩
  unfold scale?
  rw [if_pos (Int.natCast_nonneg k), if_pos (by show (k : ℤ) ≤ 308; omega), Int.toNat_natCast]
  simp only [hnear.inFormat.isInfinite_eq_false, Bool.false_eq_true, if_false]

/-- One division of two exact doubles rounds once, so it gives the nearest double of the quotient. A
longer significand would have been rounded before, and the quotient would be rounded twice. -/
theorem scale?_of_neg {x : Double} {k : ℕ} (hx : x.InFormat) {w : ℕ} (hvalue : x.value = w)
    (hw : w ≤ 2 ^ 53) (hk : k ≤ 22) (hpos : 0 < k) :
    ∃ y, scale? x (-k) = some y ∧ y.IsNearest (w * 10 ^ (-(k : ℤ))) := by
  obtain ⟨hin, hpower⟩ := value_powerOfTen hk
  refine ⟨x.div (powerOfTen k), ?_, ?_⟩
  · unfold scale?
    have hnonneg : ¬ (0 : ℤ) ≤ -(k : ℤ) := by omega
    have hgreatest : -greatestPower ≤ -(k : ℤ) := by
      show -(308 : ℤ) ≤ -(k : ℤ)
      omega
    rw [if_neg hnonneg, if_pos hgreatest, neg_neg, Int.toNat_natCast]
  · have hquotient : (w : ℚ) * 10 ^ (-(k : ℤ)) = x.value / (powerOfTen k).value := by
      rw [hvalue, hpower, zpow_neg, zpow_natCast, div_eq_mul_inv]
    have hne : (powerOfTen k).value ≠ 0 := by
      rw [hpower]
      positivity
    rw [hquotient]
    apply Floating.isNearest_div (by decide) (by decide) hx hin hne
    rw [hvalue, hpower, abs_div]
    refine lt_of_le_of_lt ?_ (natCast_lt_format (lt_of_le_of_lt hw (by decide)))
    apply div_le_self (abs_nonneg _)
    rw [abs_of_nonneg (by positivity)]
    exact one_le_pow₀ (by norm_num)

/-- Digits that are a double are scaled to the nearest double by a power of ten that is one. -/
theorem scale?_of_short {w : ℕ} {e : ℤ} (hw : w ≤ 2 ^ 53) (he : e.natAbs ≤ 22) :
    ∃ y, scale? (Floating.ofInt .double w) e = some y ∧ y.IsNearest (w * 10 ^ e) := by
  have hvalue : (Floating.ofInt .double w).value = w := by
    exact_mod_cast Floating.value_ofInt (n := w) (by simpa using hw)
  have hin : (Floating.ofInt .double w).InFormat := by
    apply (Floating.isNearest_ofInt _).inFormat
    rw [Int.natAbs_natCast]
    exact lt_of_le_of_lt hw (by decide)
  obtain ⟨k, rfl | rfl⟩ := e.eq_nat_or_neg
  · rw [Int.natAbs_natCast] at he
    simpa using scale?_of_nonneg hin hvalue hw he
  · rw [Int.natAbs_neg, Int.natAbs_natCast] at he
    obtain rfl | hpos := Nat.eq_zero_or_pos k
    · simpa using scale?_of_nonneg hin hvalue hw he
    · exact scale?_of_neg hin hvalue hw he hpos

/-- The power zero does not change a double. -/
theorem mul_powerOfTen_zero {x : Double} {r : ℚ} (hx : x.IsNearest r)
    (h : 1 ≤ x.value ∧ x.value ≤ 2 ^ 64) : x.mul (powerOfTen 0) = x := by
  obtain ⟨hin, hpower⟩ := value_powerOfTen (Nat.zero_le 22)
  rw [pow_zero] at hpower
  have hmul : (x.mul (powerOfTen 0)).IsNearest (x.value * (powerOfTen 0).value) := by
    apply Floating.isNearest_mul (by decide) (by decide) hx.inFormat hin
    rw [hpower, mul_one, abs_of_nonneg (by linarith)]
    calc x.value ≤ 2 ^ (64 : ℤ) := by exact_mod_cast h.2
      _ < _ := zpow_lt_zpow_right₀ one_lt_two (by decide)
  rw [hpower, mul_one] at hmul
  have hvalue := hmul.value_eq hx.inFormat rfl
  exact Floating.eq_of_value_eq hmul.inFormat hmul.full hx.inFormat hx.full hvalue
    (by rw [hvalue]; linarith)

/-- A whole significand is rounded once, when it is made a double. -/
theorem scale?_zero {w : ℕ} (hw : w < collectLimit) :
    ∃ y, scale? (Floating.ofInt .double w) 0 = some y ∧ y.IsNearest w := by
  by_cases hsmall : w ≤ 2 ^ 53
  · simpa using scale?_of_short hsmall (show (0 : ℤ).natAbs ≤ 22 by decide)
  · have hlimit : w < 2 ^ 64 := hw
    have hlt : (w : ℤ).natAbs < 2 ^ 128 := by omega
    have hnear := Floating.isNearest_ofInt hlt
    have hmem := Floating.value_ofInt_mem (a := 1 * 2 ^ 0) (b := 1 * 2 ^ 64) hlt (by omega)
      (by omega) (Floating.exists_value_eq (by decide) (by decide))
      (Floating.exists_value_eq (by decide) (by decide))
    norm_num at hmem
    have hsame := mul_powerOfTen_zero hnear hmem
    refine ⟨_, ?_, by rwa [Int.cast_natCast] at hnear⟩
    unfold scale?
    rw [if_pos (le_refl 0), if_pos (by decide), Int.toNat_zero]
    simp only [hsame, hnear.inFormat.isInfinite_eq_false, Bool.false_eq_true, if_false]

/-! ## Written numbers -/

namespace Numeral

/-- Whole and short numerals are stored as the nearest double, with the sign put on last. -/
theorem exists_double? {n : Numeral} (h : n.IsWhole ∨ n.IsShort) :
    ∃ x, n.double? = some x ∧ x.IsNearest n.value := by
  have hscale : n.digits < collectLimit ∧ n.written.natAbs ≤ exponentLimit ∧
      ∃ y, scale? (Floating.ofInt .double n.digits) n.power = some y ∧
        y.IsNearest (n.digits * 10 ^ n.power) := by
    obtain hwhole | hshort := h
    · have hwritten : n.written = 0 := by rw [written, hwhole.exponent]
      have hpower : n.power = 0 := by rw [power, hwritten, hwhole.fraction]; rfl
      rw [hpower, zpow_zero, mul_one]
      exact ⟨hwhole.digits_lt, by rw [hwritten]; exact Nat.zero_le _, scale?_zero hwhole.digits_lt⟩
    · exact ⟨lt_of_le_of_lt hshort.digits_le (by decide), hshort.written_le,
        scale?_of_short hshort.digits_le hshort.power_le⟩
  obtain ⟨hdigits, hwritten, y, hy, hnear⟩ := hscale
  rw [double?_eq hdigits hwritten, Json.double?, hy]
  refine ⟨_, rfl, ?_⟩
  cases hneg : n.negative with
  | false => simpa [value, signed, hneg] using hnear
  | true => simpa [value, signed, hneg] using hnear.neg

/-- The integer that a numeral spells is its value. -/
theorem Spells.value_eq {n : Numeral} {k : ℤ} (h : n.Spells k) : Numeral.value n = k := by
  have hdigits : n.digits = Text.natOfDigits n.whole := by
    rw [digits, h.fraction, List.append_nil]
  have hpower : n.power = 0 := by
    rw [power, written, h.exponent, h.fraction]
    rfl
  rw [Numeral.value, hpower, zpow_zero, mul_one, hdigits, h.value]
  cases n.negative with
  | false => rfl
  | true =>
    show -(Text.natOfDigits n.whole : ℚ) = ((-(Text.natOfDigits n.whole : ℤ) : ℤ) : ℚ)
    push_cast
    rfl

/-- **Written numbers that are read as the nearest double.** -/
theorem exists_isNearest {n : Numeral} (h : n.IsWhole ∨ n.IsShort) :
    ∃ x, HostNumber.ofTree? (.number n) = some (.number x) ∧ x.IsNearest n.value := by
  obtain ⟨k, hspells, hnumber⟩ | hnumber := n.number?_cases
  · have hk : k.natAbs < 2 ^ 128 := by
      obtain ⟨hlow, hhigh⟩ := hspells.held
      omega
    refine ⟨_, ?_, hspells.value_eq ▸ Floating.isNearest_ofInt hk⟩
    simp only [HostNumber.ofTree?, hnumber]
  · obtain ⟨x, hx, hnear⟩ := exists_double? h
    refine ⟨x, ?_, hnear⟩
    simp only [HostNumber.ofTree?, hnumber, hx, Option.map_some]

end Numeral

end FrameSource.Json
