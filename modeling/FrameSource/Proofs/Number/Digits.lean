import FrameSource.Proofs.Number.Nearest
import FrameSource.Number.Spelling

/-!
# The digits of shortest decimals

On a grid of decimals whose unit is above one, and which is not coarser than the number itself, the
number has a digit that is not zero. So a shortest decimal with zeros to be written after its digits
has other digits to be written before them (`isSolid_shortest`).
-/

namespace FrameSource

/-- Zeros are appended only to a number that is not zero itself. -/
def Decimal.IsSolid (d : Decimal) : Prop :=
  0 < d.exponent → 0 < d.digits

namespace Shortest

/-- The power of ten of the leading digit is not greater than the number. -/
theorem pow_leadingExponent_le {num den : ℕ} (h : 0 < leadingExponent num den) :
    den * 10 ^ (leadingExponent num den).toNat ≤ num := by
  unfold leadingExponent at h ⊢
  split at h
  · next hle =>
    rw [if_pos hle]
    have hpower : 10 ^ ((Nat.toDigits 10 (num / den)).length - 1) ≤ num / den := by
      by_contra hlt
      have hlength := (Nat.length_toDigits_le_iff (by decide) (by omega)).mpr (not_le.mp hlt)
      omega
    have hexponent : (((Nat.toDigits 10 (num / den)).length : ℤ) - 1).toNat =
        (Nat.toDigits 10 (num / den)).length - 1 := by omega
    rw [hexponent]
    calc den * 10 ^ ((Nat.toDigits 10 (num / den)).length - 1) ≤ den * (num / den) :=
          Nat.mul_le_mul_left den hpower
      _ ≤ num := Nat.mul_div_le num den
  · omega

/-- Of two neighbours on a grid the lower one or the upper one is taken, if any. -/
theorem neighbour_spec {up down : Bool} {n : ℕ} {x : ℤ} {d : Decimal}
    (h : (if up then some ⟨n + 1, x⟩ else if down then some ⟨n, x⟩ else none) = some d) :
    d.exponent = x ∧ n ≤ d.digits := by
  split at h
  · obtain rfl := Option.some.inj h
    exact ⟨rfl, Nat.le_succ n⟩
  · split at h
    · obtain rfl := Option.some.inj h
      exact ⟨rfl, Nat.le_refl n⟩
    · cases h

/-- What is found on a grid that is not coarser than the number is not zero. -/
theorem isSolid_of_onGrid {tie : DecimalTie} {value : ℕ} {i : Interval} {e : ℤ} {count : ℕ}
    (hden : 0 < i.den) (hcount : 1 ≤ count) (hlead : 0 < e → i.den * 10 ^ e.toNat ≤ value)
    {d : Decimal} (h : onGrid tie value i e count = some d) : d.IsSolid := by
  intro hexponent
  obtain ⟨hx, hdigits⟩ : d.exponent = e - count + 1 ∧
      value * (powerOfTen (e - count + 1)).2 / (i.den * (powerOfTen (e - count + 1)).1) ≤
        d.digits := neighbour_spec h
  rw [hx] at hexponent
  have hpower : powerOfTen (e - count + 1) = (10 ^ (e - count + 1).toNat, 1) :=
    if_pos hexponent.le
  have hle : i.den * 10 ^ (e - count + 1).toNat ≤ value :=
    le_trans (Nat.mul_le_mul_left _ (Nat.pow_le_pow_right (by decide) (by omega)))
      (hlead (by omega))
  rw [hpower, Nat.mul_one] at hdigits
  exact lt_of_lt_of_le (Nat.div_pos hle (Nat.mul_pos hden (Nat.pow_pos (by decide)))) hdigits

theorem isSolid_dropZeros {d : Decimal} (h : d.IsSolid) (fuel : ℕ) : (d.dropZeros fuel).IsSolid := by
  induction fuel generalizing d with
  | zero => exact h
  | succ fuel ih =>
    unfold Decimal.dropZeros
    split
    · next hzero =>
      apply ih
      intro _
      show 0 < d.digits / 10
      omega
    · exact h

end Shortest

/-- **A shortest decimal with zeros behind its digits is not zero.** -/
theorem BinaryFormat.isSolid_shortest (format : BinaryFormat) (tie : DecimalTie) (m : ℕ) (q : ℤ) :
    (format.shortest tie m q).IsSolid := by
  unfold BinaryFormat.shortest
  split
  · exact fun h => absurd h (lt_irrefl 0)
  · unfold Shortest.decimal
    simp only
    split
    · next d hfind =>
      obtain ⟨count, hcount, hgrid⟩ := List.exists_of_findSome?_eq_some hfind
      have hden : 0 < (Shortest.roundingInterval format m q).2.den :=
        (Floating.ratio_spec 1 (q - 2)).1
      have hpos : 1 ≤ count := (List.mem_range'_1.mp hcount).1
      exact Shortest.isSolid_dropZeros
        (Shortest.isSolid_of_onGrid hden hpos Shortest.pow_leadingExponent_le hgrid) _
    · exact fun h => absurd h (lt_irrefl 0)

end FrameSource
