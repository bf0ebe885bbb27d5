import FrameSource.Proofs.Text.Numerals
import FrameSource.Time.Instant
import Mathlib.Data.Rat.Floor

/-!
# Microseconds

The microseconds of an instant are its nanoseconds since the epoch, divided by a thousand and
rounded down, before the epoch as after it (`Instant.micros_eq_floor`).

**They are computed in words** (`Instant.exists_wordMicros?`): from the day, the second of the day
and the nanoseconds, in signed 64-bit arithmetic that gives nothing as soon as a value does not fit
(`Word`). At both ends of the calendar the product with a million is close to the limit.

**The order is kept** (`Instant.micros_le_micros`) from an instant on that is in no leap second.
From inside a leap second it need not be, because that second counts on into the next one.
-/

namespace FrameSource

/-! ## Signed 64-bit arithmetic -/

namespace Word

/-- The word of an integer; none if it does not fit. -/
def ofInt? (n : ℤ) : Option Int64 :=
  if Text.inInt64 n then some (Int64.ofInt n) else none

/-- The sum of two words, if it fits. -/
def add? (a b : Int64) : Option Int64 := ofInt? (a.toInt + b.toInt)

/-- A multiple of a word, if it fits. -/
def scale? (a : Int64) (n : ℤ) : Option Int64 := ofInt? (a.toInt * n)

variable {a b : Int64} {n : ℤ}

theorem exists_ofInt? (h : -2 ^ 63 ≤ n ∧ n < 2 ^ 63) : ∃ w, ofInt? n = some w ∧ w.toInt = n :=
  ⟨Int64.ofInt n, if_pos (Text.inInt64_iff.mpr h), Int64.toInt_ofInt_of_le h.1 h.2⟩

/-- A checked sum is there if the exact one fits the machine's word, and then it is the exact one. -/
theorem exists_add? (h : -2 ^ 63 ≤ a.toInt + b.toInt ∧ a.toInt + b.toInt < 2 ^ 63) :
    ∃ w, add? a b = some w ∧ w.toInt = a.toInt + b.toInt :=
  exists_ofInt? h

theorem exists_scale? (h : -2 ^ 63 ≤ a.toInt * n ∧ a.toInt * n < 2 ^ 63) :
    ∃ w, scale? a n = some w ∧ w.toInt = a.toInt * n :=
  exists_ofInt? h

theorem ofInt?_toInt (w : Int64) : ofInt? w.toInt = some w := by
  rw [ofInt?, if_pos (Text.inInt64_iff.mpr ⟨w.le_toInt, w.toInt_lt⟩), Int64.ofInt_toInt]

end Word

namespace Instant

variable {t u : Instant}

/-! ## Rounding -/

/-- Nanoseconds since the epoch; a leap second counts on from second 59. -/
def nanosSinceEpoch (t : Instant) : ℤ :=
  t.seconds * 1000000000 + t.nanos

/-- **The microseconds are the nanoseconds rounded down**, also before the epoch. -/
theorem micros_eq_floor (t : Instant) : t.micros = ⌊(t.nanosSinceEpoch : ℚ) / 1000⌋ := by
  have hfloor : ⌊(t.nanosSinceEpoch : ℚ) / 1000⌋ = t.nanosSinceEpoch / 1000 :=
    Rat.floor_intCast_div_natCast t.nanosSinceEpoch 1000
  rw [hfloor, micros, nanosSinceEpoch]
  omega

/-- Rounding toward zero would give another number here. -/
example : (⟨-1, 999999500⟩ : Instant).micros = -1 ∧
    (nanosSinceEpoch ⟨-1, 999999500⟩).tdiv 1000 = 0 := by
  decide

/-! ## Words -/

/-- Seconds in range. The nanoseconds of any second may go on as in a leap second. -/
structure InReach (t : Instant) : Prop where
  first : firstSecond ≤ t.seconds
  last : t.seconds ≤ lastSecond
  nanos : t.nanos < 2000000000

/-- The seconds in words, from the day and the second of the day. -/
def wordSeconds? (t : Instant) : Option Int64 := do
  let day ← Word.ofInt? (t.seconds / 86400)
  let midnight ← Word.scale? day 86400
  let second ← Word.ofInt? (t.seconds % 86400)
  Word.add? midnight second

/-- The microseconds in words, from the seconds and the nanoseconds. -/
def wordMicros? (t : Instant) : Option Int64 := do
  let seconds ← t.wordSeconds?
  let whole ← Word.scale? seconds 1000000
  let part ← Word.ofInt? (t.nanos / 1000 : ℕ)
  Word.add? whole part

/-- The seconds of an instant in reach fit a machine's word. -/
theorem exists_wordSeconds? (h : t.InReach) :
    ∃ w : Int64, t.wordSeconds? = some w ∧ w.toInt = t.seconds := by
  have hfirst : -8334601228800 ≤ t.seconds := h.first
  have hlast : t.seconds ≤ 8210266876799 := h.last
  obtain ⟨day, hday, hdayInt⟩ := Word.exists_ofInt? (n := t.seconds / 86400) (by omega)
  obtain ⟨midnight, hmidnight, hmidnightInt⟩ :=
    Word.exists_scale? (a := day) (n := 86400) (by omega)
  obtain ⟨second, hsecond, hsecondInt⟩ := Word.exists_ofInt? (n := t.seconds % 86400) (by omega)
  obtain ⟨w, hw, hwInt⟩ := Word.exists_add? (a := midnight) (b := second) (by omega)
  refine ⟨w, ?_, by omega⟩
  simp only [wordSeconds?, hday, hmidnight, hsecond, hw, Option.bind_eq_bind, Option.bind_some]

/-- **No step leaves the words**, for every instant of the calendar. -/
theorem exists_wordMicros? (h : t.InReach) :
    ∃ w : Int64, t.wordMicros? = some w ∧ w.toInt = t.micros := by
  have hfirst : -8334601228800 ≤ t.seconds := h.first
  have hlast : t.seconds ≤ 8210266876799 := h.last
  have hnanos := h.nanos
  obtain ⟨seconds, hseconds, hsecondsInt⟩ := exists_wordSeconds? h
  obtain ⟨whole, hwhole, hwholeInt⟩ :=
    Word.exists_scale? (a := seconds) (n := 1000000) (by omega)
  obtain ⟨part, hpart, hpartInt⟩ := Word.exists_ofInt? (n := (t.nanos / 1000 : ℕ)) (by omega)
  obtain ⟨w, hw, hwInt⟩ := Word.exists_add? (a := whole) (b := part) (by omega)
  refine ⟨w, ?_, ?_⟩
  · simp only [wordMicros?, hseconds, hwhole, hpart, hw, Option.bind_eq_bind, Option.bind_some]
  · rw [micros]
    omega

/-! ## Order -/

/-- Inside of a leap second. -/
def IsLeap (t : Instant) : Prop :=
  1000000000 ≤ t.nanos

/-- Instants in the order of their seconds, and inside a second of their nanoseconds. -/
instance : LE Instant where
  le t u := t.seconds < u.seconds ∨ t.seconds = u.seconds ∧ t.nanos ≤ u.nanos

/-- Instants are ordered by their seconds, and within one second by their nanoseconds, those of a
leap second last. -/
theorem le_iff : t ≤ u ↔ t.seconds < u.seconds ∨ t.seconds = u.seconds ∧ t.nanos ≤ u.nanos :=
  Iff.rfl

/-- **The order is kept** from an instant on that is in no leap second. -/
theorem micros_le_micros (ht : ¬ t.IsLeap) (h : t ≤ u) : t.micros ≤ u.micros := by
  rw [IsLeap] at ht
  rw [le_iff] at h
  rw [micros, micros]
  omega

/-- Inside of a leap second it is not. -/
example : (⟨59, 1500000000⟩ : Instant) ≤ ⟨60, 0⟩ ∧
    (⟨60, 0⟩ : Instant).micros < (⟨59, 1500000000⟩ : Instant).micros :=
  ⟨Or.inl (by decide), by decide⟩

end Instant

end FrameSource
