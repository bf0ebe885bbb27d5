import FrameSource.Proofs.Alignment
import FrameSource.Proofs.Number.Overflow
import FrameSource.Proofs.Number.Whole
import FrameSource.Result.Document

/-!
# The numbers that are read

A JSON number that was read is an integer of 64 bits or a finite double (`Number.IsHeld`). It is an
integer exactly if it is written as one: without a point, without an exponent and not as a negative
zero (`Numeral.number?_eq_int_iff`). Scaling by a power of ten never leaves the doubles, because a
product that overflows is refused and a quotient only gets smaller (`scale?_inFormat`).

**Every number of a result document is held** (`ResultDocument.isHeld_of_parse?`).
-/

namespace FrameSource

namespace Json

open Floating

/-- A number that a reader can hold: an integer of 64 bits, signed or unsigned, or a finite double. -/
def Number.IsHeld : Number → Prop
  | .int n => -2 ^ 63 ≤ n ∧ n < 2 ^ 64
  | .double x => x.InFormat
  | .single _ => False

/-- An integer as it is written: digits alone, with a sign unless it is zero. -/
structure Numeral.Spells (n : Numeral) (k : ℤ) : Prop where
  fraction : n.fraction = []
  exponent : n.exponent = none
  value : k = if n.negative then -(Text.natOfDigits n.whole : ℤ) else Text.natOfDigits n.whole
  nonzero : n.negative = true → k ≠ 0
  held : (Number.int k).IsHeld

/-! ## Integers -/

/-- The integer that a numeral spells is read. The reader has a condition for each sign: a negative
integer may be as low as a signed word and is not zero, the others may be as high as an unsigned
word. -/
theorem Numeral.number?_of_spells {n : Numeral} {k : ℤ} (h : n.Spells k) :
    n.number? = some (.int k) := by
  have hplain : n.fraction.isEmpty ∧ n.exponent.isNone :=
    ⟨List.isEmpty_iff.mpr h.fraction, Option.isNone_iff_eq_none.mpr h.exponent⟩
  have hvalue := h.value
  have hlow := h.held.1
  have hhigh := h.held.2
  unfold number?
  rw [if_pos hplain]
  cases hnegative : n.negative with
  | true =>
    have hnonzero := h.nonzero hnegative
    rw [hnegative, if_pos rfl] at hvalue
    have hrange : 0 < Text.natOfDigits n.whole ∧
        Text.int64Min ≤ -(Text.natOfDigits n.whole : ℤ) := by
      rw [Text.int64Min]
      omega
    rw [if_pos rfl, if_pos hrange, hvalue]
  | false =>
    rw [hnegative, if_neg Bool.false_ne_true] at hvalue
    have hrange : Text.natOfDigits n.whole < collectLimit := by
      rw [collectLimit, UInt64.size]
      omega
    rw [if_neg Bool.false_ne_true, if_pos hrange, hvalue]

/-- Whatever spells no integer is read as a double, if it is read at all. -/
theorem Numeral.number?_of_not_spells {n : Numeral} (h : ∀ k, ¬ n.Spells k) :
    n.number? = n.double?.map .double := by
  unfold number?
  by_cases hplain : n.fraction.isEmpty ∧ n.exponent.isNone
  · have hspells {k : ℤ} := fun hvalue hnonzero hheld => h k
      ⟨List.isEmpty_iff.mp hplain.1, Option.isNone_iff_eq_none.mp hplain.2, hvalue, hnonzero, hheld⟩
    rw [if_pos hplain]
    cases hnegative : n.negative with
    | true =>
      rw [hnegative] at hspells
      rw [if_pos rfl]
      refine if_neg fun hrange => ?_
      rw [Text.int64Min] at hrange
      exact hspells (if_pos rfl).symm (fun _ => by omega) ⟨by omega, by omega⟩
    | false =>
      rw [hnegative] at hspells
      rw [if_neg Bool.false_ne_true]
      refine if_neg fun hrange => ?_
      rw [collectLimit, UInt64.size] at hrange
      exact hspells (if_neg Bool.false_ne_true).symm nofun ⟨by omega, by omega⟩
  · exact if_neg hplain

/-- A number is an integer or is read as a double. -/
theorem Numeral.number?_cases (n : Numeral) :
    (∃ k, n.Spells k ∧ n.number? = some (.int k)) ∨ n.number? = n.double?.map .double := by
  by_cases h : ∃ k, n.Spells k
  · obtain ⟨k, hk⟩ := h
    exact Or.inl ⟨k, hk, number?_of_spells hk⟩
  · exact Or.inr (number?_of_not_spells (not_exists.mp h))

/-- **A number is an integer if it is written as one.** -/
theorem Numeral.number?_eq_int_iff (n : Numeral) (k : ℤ) :
    n.number? = some (.int k) ↔ n.Spells k := by
  refine ⟨fun h => ?_, number?_of_spells⟩
  obtain ⟨k', hspells, hread⟩ | hread := n.number?_cases
  · obtain rfl := Number.int.inj (Option.some.inj (hread.symm.trans h))
    exact hspells
  · obtain ⟨x, _, hx⟩ := Option.map_eq_some_iff.mp (hread.symm.trans h)
    cases hx

/-- An integer in digits is read as that integer. -/
theorem Numeral.number?_decimal {n : ℤ} (h : (Number.int n).IsHeld) :
    (Numeral.mk (decide (n < 0)) (Text.decimal n.natAbs) [] none).number? = some (.int n) := by
  refine number?_of_spells ⟨rfl, rfl, ?_, ?_, h⟩
  · simp only [Text.natOfDigits_decimal, decide_eq_true_eq]
    split <;> omega
  · intro hnegative
    have hneg : n < 0 := of_decide_eq_true hnegative
    omega

/-! ## Doubles -/

/-- The limit of the doubles as a fraction of two integers, in which powers of ten can be compared
with it. -/
theorem limit_double : BinaryFormat.double.limit = ((2 ^ 54 - 1) * 2 ^ 971 : ℕ) / 2 := by
  have hunit : (2 : ℚ) ^ (971 : ℤ) = 2 ^ 971 := zpow_natCast 2 971
  show ((2 : ℚ) ^ 53 - 1 / 2) * 2 ^ (971 : ℤ) = _
  rw [hunit, Nat.cast_mul, Nat.cast_pow 2 971, Nat.cast_ofNat]
  generalize (2 : ℚ) ^ 971 = unit
  norm_num
  ring

/-- A power of ten of the scale is a double, and at least one. -/
theorem powerOfTen_spec {e : ℕ} (he : e ≤ 308) :
    (powerOfTen e).InFormat ∧ 1 ≤ |(powerOfTen e).value| := by
  have hsmall : ((Nat.pow 10 e : ℕ) : ℚ) / (1 : ℕ) < BinaryFormat.double.limit := by
    rw [Nat.cast_one, div_one, limit_double, lt_div_iff₀ two_pos]
    have hle : Nat.pow 10 e * 2 < (2 ^ 54 - 1) * 2 ^ 971 :=
      lt_of_le_of_lt (Nat.mul_le_mul_right 2 (Nat.pow_le_pow_right (by decide) he))
        (by decide +kernel)
    exact_mod_cast hle
  have hformat : 2 ≤ BinaryFormat.double.precision := by decide
  obtain ⟨hreach, _⟩ | ⟨_, hnear⟩ :=
    roundRatio_cases hformat (by decide) false (Nat.pow 10 e) Nat.one_pos
  · exact absurd hreach (not_le.mpr hsmall)
  · have hsame : powerOfTen e = roundRatio .double false (Nat.pow 10 e) 1 := by
      rw [powerOfTen, ofInt, Int.natAbs_natCast, decide_eq_false (by omega)]
    obtain ⟨y, hy, hvalue⟩ := exists_value_eq (n := 1) (by decide) (Nat.zero_le 971)
    have hone : y.value = 1 := by
      rw [hvalue]
      norm_num
    have hle : (1 : ℚ) ≤ signed false (((Nat.pow 10 e : ℕ) : ℚ) / (1 : ℕ)) := by
      show (1 : ℚ) ≤ ((Nat.pow 10 e : ℕ) : ℚ) / (1 : ℕ)
      rw [Nat.cast_one, div_one]
      exact_mod_cast Nat.one_le_iff_ne_zero.mpr (Nat.pow_pos (by decide)).ne'
    have hvalue := hnear.le_value hy (by rw [hone]; exact hle)
    rw [hone] at hvalue
    rw [hsame]
    exact ⟨hnear.inFormat, hvalue.trans (le_abs_self _)⟩

/-- Dividing by a power of ten of the scale leaves the doubles nowhere: the power is at least one,
so nothing gets greater. -/
theorem div_powerOfTen_inFormat {x : Double} (hx : x.InFormat) {e : ℕ} (he : e ≤ 308) :
    (x.div (powerOfTen e)).InFormat := by
  obtain ⟨hpower, hone⟩ := powerOfTen_spec he
  exact hx.div (by decide) (by decide) hpower hone

/-- **Scaling stays within the doubles**, where it gives a number at all. -/
theorem scale?_inFormat {x y : Double} {e : ℤ} (hx : x.InFormat) (h : scale? x e = some y) :
    y.InFormat := by
  fun_induction scale? x e with
  | case1 => cases h
  | case2 x e _ hgreatest product hfinite =>
    obtain rfl := Option.some.inj h
    have he : e.toNat ≤ 308 := by
      simp only [greatestPower] at hgreatest
      omega
    exact hx.mul (by decide) (by decide) (powerOfTen_spec he).1 (by simpa using hfinite)
  | case3 =>
    obtain rfl := Option.some.inj h
    exact hx
  | case4 => cases h
  | case5 x e _ hgreatest =>
    obtain rfl := Option.some.inj h
    have he : (-e).toNat ≤ 308 := by
      simp only [greatestPower] at hgreatest
      omega
    exact div_powerOfTen_inFormat hx he
  | case6 =>
    obtain rfl := Option.some.inj h
    exact hx
  | case7 x e _ _ _ ih => exact ih (div_powerOfTen_inFormat hx (le_refl 308)) h

theorem collectDigits_lt (cs : List Char) {n : ℕ} (h : n < collectLimit) :
    (collectDigits n cs).1 < collectLimit := by
  induction cs generalizing n with
  | nil => exact h
  | cons c cs ih =>
    unfold collectDigits
    simp only
    split
    · next hnext => exact ih hnext
    · exact h

/-- A significand below the limit is scaled to a double or is refused, and its sign does not matter. -/
theorem double?_inFormat {negative : Bool} {significand : ℕ} {e : ℤ} {x : Double}
    (hlimit : significand < collectLimit) (h : double? negative significand e = some x) :
    x.InFormat := by
  obtain ⟨y, hy, hx⟩ := Option.bind_eq_some_iff.mp h
  have hsmall : (significand : ℤ).natAbs < 2 ^ 128 := by
    have hlimit : significand < 2 ^ 64 := hlimit
    omega
  have hin : y.InFormat := scale?_inFormat (isNearest_ofInt hsmall).inFormat hy
  obtain rfl := Option.some.inj hx
  cases negative with
  | true => exact hin.neg
  | false => exact hin

/-- Of a numeral that is read as a double the reader keeps a number of the format, never an infinite
one. -/
theorem Numeral.double?_inFormat {n : Numeral} {x : Double} (h : n.double? = some x) :
    x.InFormat := by
  have hlimit : (collectDigits (collectDigits 0 n.whole).1 n.fraction).1 < collectLimit :=
    collectDigits_lt _ (collectDigits_lt _ (by decide))
  unfold double? at h
  simp only at h
  split at h
  · exact Json.double?_inFormat hlimit h
  · split at h
    · split at h
      · obtain rfl := Option.some.inj h
        exact (isNearest_zero (by decide) n.negative).inFormat
      · cases h
    · exact Json.double?_inFormat hlimit h

/-- **What is read of a number is held.** -/
theorem Numeral.number?_isHeld {n : Numeral} {k : Number} (h : n.number? = some k) : k.IsHeld := by
  obtain ⟨k', hspells, hint⟩ | hdouble := n.number?_cases
  · obtain rfl := Option.some.inj (h.symm.trans hint)
    exact hspells.held
  · rw [hdouble] at h
    obtain ⟨x, hx, rfl⟩ := Option.map_eq_some_iff.mp h
    exact Numeral.double?_inFormat hx

end Json

/-! ## Documents -/

/-- The numbers of a document are such as a reader can hold. -/
def ResultDocument.IsHeld (d : ResultDocument) : Prop :=
  ∀ vs ∈ d.rows, ∀ n, Json.Value.number n ∈ vs → n.IsHeld

theorem Json.Tree.isHeld_of_value? {t : Json.Tree} {depth : ℕ} {n : Json.Number}
    (h : t.value? depth = some (.number n)) : n.IsHeld := by
  cases t with
  | null => cases h
  | bool b => cases h
  | number numeral =>
    rw [Json.Tree.value?] at h
    obtain ⟨k, hk, hn⟩ := Option.map_eq_some_iff.mp h
    obtain rfl := Json.Value.number.inj hn
    exact Json.Numeral.number?_isHeld hk
  | string s =>
    rw [Json.Tree.value?] at h
    obtain ⟨_, _, hs⟩ := Option.map_eq_some_iff.mp h
    cases hs
  | array items =>
    cases depth with
    | zero => cases h
    | succ depth =>
      rw [Json.Tree.value?] at h
      obtain ⟨_, _, hs⟩ := Option.map_eq_some_iff.mp h
      cases hs
  | object members =>
    cases depth with
    | zero => cases h
    | succ depth =>
      rw [Json.Tree.value?] at h
      obtain ⟨_, _, hs⟩ := Option.map_eq_some_iff.mp h
      cases hs

/-- **Every number of a document is held** that was read from a text. -/
theorem ResultDocument.isHeld_of_parse? {text : String} {d : ResultDocument}
    (h : ResultDocument.parse? text = some d) : d.IsHeld := by
  obtain ⟨tree, _, h⟩ := Option.bind_eq_some_iff.mp h
  obtain ⟨fields, _, h⟩ := Option.bind_eq_some_iff.mp h
  split at h
  · next columnsTree rows? _ =>
    obtain ⟨columns, _, h⟩ := Option.bind_eq_some_iff.mp h
    obtain ⟨rows, hrows, h⟩ := Option.bind_eq_some_iff.mp h
    obtain rfl := Option.some.inj h
    intro vs hvs n hn
    cases rows? with
    | none =>
      obtain rfl := Option.some.inj hrows
      cases hvs
    | some rowsTree =>
      cases rowsTree with
      | array items =>
        obtain ⟨item, _, hrow⟩ := forall₂_exists_left (forall₂_of_mapM hrows) hvs
        cases item with
        | array cells =>
          obtain ⟨cell, _, hcell⟩ := forall₂_exists_left (forall₂_of_mapM hrow) hn
          exact Json.Tree.isHeld_of_value? hcell
        | _ => cases hrow
      | _ => cases hrows
  · cases h

end FrameSource
