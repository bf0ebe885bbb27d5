import FrameSource.Proofs.Text.Numerals
import FrameSource.Proofs.Time.RoundTrip
import Mathlib.Algebra.Order.Ring.Int
import Mathlib.Data.List.Basic

/-!
# The spellings of an instant

An instant can be given as a count of microseconds, or as a text: the date and the time on a clock at
some offset from UTC, with any number of fraction digits that are exact, and that offset
(`Rfc3339.Renders`). The text that an instant is written as is one of them (`renders_write`).

**Every such text reads back as the instant** (`read_of_renders`), if the year on that clock takes
four digits; and the counts of microseconds that stand for an instant are those from the first to the
last (`ofMicros?_cases`).
-/

namespace FrameSource

/-! ## Microseconds -/

namespace Instant

/-- The first count of microseconds that is an instant. -/
def firstMicros : ℤ := firstSecond * 1000000

/-- The last count of microseconds that is an instant. -/
def lastMicros : ℤ := lastSecond * 1000000 + 999999

/-- The point in time a number of microseconds after the epoch, in range or not. -/
def atMicros (micros : ℤ) : Instant :=
  ⟨micros / 1000000, (micros % 1000000).toNat * 1000⟩

/-- The year of an instant on a clock at an offset. -/
def yearAt (t : Instant) (offset : ℤ) : ℤ :=
  (CivilDate.ofDays ((t.seconds + offset) / 86400)).year

/-- An instant is one of the calendar's range, and goes beyond a full second only in the last of a
minute. -/
theorem isValid_iff {t : Instant} :
    t.isValid = true ↔ firstSecond ≤ t.seconds ∧ t.seconds ≤ lastSecond ∧
      (t.nanos < 1000000000 ∨ (t.nanos < 2000000000 ∧ t.seconds % 60 = 59)) := by
  simp only [isValid, Bool.and_eq_true, Bool.or_eq_true, decide_eq_true_eq, and_assoc]

/-- The instant at a count of microseconds, exactly. The nanoseconds are not negative, before the
epoch either. -/
theorem atMicros_spec (n : ℤ) : (atMicros n).nanos < 1000000000 ∧
    (atMicros n).seconds * 1000000000 + (atMicros n).nanos = n * 1000 := by
  simp only [atMicros]
  omega

/-- Counts of microseconds within the range of the calendar name valid instants, and no others do. -/
theorem isValid_atMicros {n : ℤ} :
    (atMicros n).isValid = true ↔ firstMicros ≤ n ∧ n ≤ lastMicros := by
  rw [isValid_iff]
  simp only [atMicros, firstMicros, lastMicros, firstSecond, lastSecond]
  omega

/-- **The counts of microseconds that are instants** are those from the first to the last. -/
theorem ofMicros?_cases (n : ℤ) :
    (firstMicros ≤ n ∧ n ≤ lastMicros ∧ ofMicros? n = some (atMicros n)) ∨
      (¬ (firstMicros ≤ n ∧ n ≤ lastMicros) ∧ ofMicros? n = none) := by
  by_cases h : firstMicros ≤ n ∧ n ≤ lastMicros
  · exact Or.inl ⟨h.1, h.2, if_pos (isValid_atMicros.mpr h)⟩
  · exact Or.inr ⟨h, if_neg (mt isValid_atMicros.mp h)⟩

theorem inInt64_of_micros {n : ℤ} (h : firstMicros ≤ n ∧ n ≤ lastMicros) : Text.inInt64 n = true := by
  simp only [firstMicros, lastMicros, firstSecond, lastSecond] at h
  exact Text.inInt64_iff.mpr (by omega)

end Instant

/-- The days of the years that take four digits. -/
theorem CivilDate.days_of_year {days : ℤ}
    (h : 0 ≤ (ofDays days).year ∧ (ofDays days).year ≤ 9999) :
    -1000000 < days ∧ days < 4000000 := by
  obtain ⟨era, year, rest, hyear, hrest, hdays, _, hdate⟩ := ofDays_spec days
  have hrange : -1 ≤ era * 400 + year ∧ era * 400 + year ≤ 9999 := by
    rw [hdate] at h
    simp only at h
    split at h <;> omega
  simp only [Calendar.epochDay, Calendar.yearStart] at hdays
  omega

/-- A clock that shows a year of four digits shows an instant that exists. -/
theorem Instant.micros_of_yearAt {n offset : ℤ} (hday : -86400 < offset ∧ offset < 86400)
    (h : 0 ≤ (atMicros n).yearAt offset ∧ (atMicros n).yearAt offset ≤ 9999) :
    firstMicros ≤ n ∧ n ≤ lastMicros := by
  have hdays := CivilDate.days_of_year h
  simp only [atMicros] at hdays
  simp only [firstMicros, lastMicros, firstSecond, lastSecond]
  omega

namespace Rfc3339

open Text

/-! ## Texts -/

/-- A fraction of a second that is exactly so many nanoseconds; nothing at all if there are none. -/
inductive SpellsFraction (nanos : ℕ) : List Char → Prop where
  | whole (hzero : nanos = 0) : SpellsFraction nanos []
  | point {digits : List Char} (hne : digits ≠ []) (hdigits : ∀ c ∈ digits, isDigit c = true)
      (hexact : natOfDigits digits * 10 ^ 9 = nanos * 10 ^ digits.length) :
      SpellsFraction nanos ('.' :: digits)

/-- An offset of whole minutes that is less than a day. -/
inductive SpellsZone : ℤ → List Char → Prop where
  | zulu {c : Char} (hc : c ∈ ['Z', 'z']) : SpellsZone 0 [c]
  | east {hours minutes : ℕ} (hhours : hours < 24) (hminutes : minutes < 60) :
      SpellsZone (hours * 3600 + minutes * 60)
        ('+' :: (decimalPadded 2 hours ++ ':' :: decimalPadded 2 minutes))
  | west {sign : Char} {hours minutes : ℕ} (hsign : sign ∈ ['-', '\u2212']) (hhours : hours < 24)
      (hminutes : minutes < 60) :
      SpellsZone (-(hours * 3600 + minutes * 60))
        (sign :: (decimalPadded 2 hours ++ ':' :: decimalPadded 2 minutes))

/-- Date and time on a clock `seconds` after the epoch, in front of what follows. A leap second goes
on beyond 10⁹ nanoseconds and is written as second 60. -/
def clockText (seconds : ℤ) (nanos : ℕ) (mark : Char) (rest : List Char) : List Char :=
  let date := CivilDate.ofDays (seconds / 86400)
  let time := (seconds % 86400).toNat
  decimalPadded 4 date.year.toNat ++ '-' :: (decimalPadded 2 date.month ++
    '-' :: (decimalPadded 2 date.day ++ mark :: (decimalPadded 2 (time / 3600) ++
    ':' :: (decimalPadded 2 (time / 60 % 60) ++
    ':' :: (decimalPadded 2 (time % 60 + if 1000000000 ≤ nanos then 1 else 0) ++ rest)))))

/-- The texts of an instant at an offset. -/
inductive Renders (t : Instant) (offset : ℤ) : List Char → Prop where
  | mk {mark : Char} {fraction zone : List Char} (hmark : mark ∈ ['T', 't', ' '])
      (hfraction : SpellsFraction (t.nanos % 1000000000) fraction) (hzone : SpellsZone offset zone) :
      Renders t offset (clockText (t.seconds + offset) t.nanos mark (fraction ++ zone))

/-! ## Fractions -/

/-- Exact digits give the nanoseconds, however many there are: those after the ninth are zeros. -/
theorem natOfDigits_take_nine {digits : List Char} {nanos : ℕ}
    (hdigits : ∀ c ∈ digits, isDigit c = true)
    (hexact : natOfDigits digits * 10 ^ 9 = nanos * 10 ^ digits.length) :
    natOfDigits (digits.take 9) * 10 ^ (9 - (digits.take 9).length) = nanos := by
  rw [List.length_take]
  -- Up to nine digits all are taken; of more, those that are left off come to less than a unit.
  by_cases hlength : digits.length ≤ 9
  · rw [List.take_of_length_le hlength, min_eq_right hlength]
    have hpow : 10 ^ 9 = 10 ^ (9 - digits.length) * 10 ^ digits.length := by
      rw [← pow_add, Nat.sub_add_cancel hlength]
    rw [hpow, ← Nat.mul_assoc] at hexact
    exact Nat.eq_of_mul_eq_mul_right (Nat.pow_pos (by decide)) hexact
  · have hnine : 9 ≤ digits.length := Nat.le_of_not_le hlength
    rw [min_eq_left hnine, Nat.sub_self, pow_zero, Nat.mul_one]
    have hrest : ∀ c ∈ digits.drop 9, isDigit c = true :=
      fun c hc => hdigits c (List.mem_of_mem_drop hc)
    obtain ⟨r, hr, hvalue⟩ := exists_ofDigitChars hrest (natOfDigits (digits.take 9))
    have hall : natOfDigits digits = natOfDigits (digits.take 9) * 10 ^ (digits.length - 9) + r := by
      rw [List.length_drop] at hvalue
      rw [← hvalue, natOfDigits, natOfDigits, ← Nat.ofDigitChars_append, List.take_append_drop]
    have hpow : 10 ^ digits.length = 10 ^ (digits.length - 9) * 10 ^ 9 := by
      rw [← pow_add, Nat.sub_add_cancel hnine]
    rw [hpow, ← Nat.mul_assoc] at hexact
    have hsame := Nat.eq_of_mul_eq_mul_right (Nat.pow_pos (by decide)) hexact
    rw [List.length_drop] at hr
    rw [hall] at hsame
    have hpos : 0 < 10 ^ (digits.length - 9) := Nat.pow_pos (by decide)
    calc natOfDigits (digits.take 9)
        = (natOfDigits (digits.take 9) * 10 ^ (digits.length - 9) + r) /
            10 ^ (digits.length - 9) := by
          rw [Nat.mul_comm, Nat.mul_add_div hpos, Nat.div_eq_of_lt hr, Nat.add_zero]
      _ = nanos := by rw [hsame, Nat.mul_div_cancel _ hpos]

/-- A fraction is read as the nanoseconds that it spells. -/
theorem readFraction_spells {nanos : ℕ} {fraction rest : List Char}
    (h : SpellsFraction nanos fraction) (hrest : EndsFraction rest) :
    readFraction (fraction ++ rest) = .ok (nanos, rest) := by
  cases h with
  | whole hzero =>
    subst hzero
    cases rest with
    | nil => rfl
    | cons c rest =>
      have hpoint : c ≠ '.' := (hrest c rfl).2
      unfold readFraction
      split
      · next heq => exact absurd (List.cons.inj heq).1 hpoint
      · rfl
  | @point digits hne hdigits hexact =>
    obtain ⟨htake, hdrop⟩ := takeWhile_isDigit_append hdigits fun c hc => (hrest c hc).1
    have hsome : digits.isEmpty = false := List.isEmpty_eq_false_iff.mpr hne
    have hvalue := natOfDigits_take_nine hdigits hexact
    simp only [List.cons_append, readFraction, htake, hdrop, hsome, Bool.false_eq_true, if_false]
    rw [show Nat.pow 10 _ = 10 ^ _ from rfl, hvalue]

/-! ## Offsets -/

/-- Two digits spell a number below a hundred, which is how hours, minutes and seconds are read. -/
theorem decimalPadded_two {n : ℕ} (h : n < 100) :
    ∃ a b, decimalPadded 2 n = [a, b] ∧ isDigit a = true ∧ isDigit b = true ∧
      10 * digitValue a + digitValue b = n := by
  have hlength : (decimalPadded 2 n).length = 2 := length_decimalPadded (by decide) h
  have hdigits := List.all_eq_true.mp (all_isDigit_decimalPadded 2 n)
  have hvalue := natOfDigits_decimalPadded 2 n
  obtain ⟨a, b, hab⟩ := List.length_eq_two.mp hlength
  rw [hab] at hdigits hvalue
  have hdenotes : 10 * (10 * 0 + digitValue a) + digitValue b = n := hvalue
  exact ⟨a, b, hab, hdigits a (by simp), hdigits b (by simp), by omega⟩

/-- A written offset is read to its seconds, with whichever sign the reader takes in front; there
are two for the west. -/
theorem readNumericOffset_spells (sign : Char) (negative : Bool) {hours minutes : ℕ}
    (hsign : ∀ rest, readSign (sign :: rest) = .ok (negative, rest)) (hhours : hours < 24)
    (hminutes : minutes < 60) :
    readNumericOffset (sign :: (decimalPadded 2 hours ++ ':' :: decimalPadded 2 minutes)) =
      .ok (if negative then -(hours * 3600 + minutes * 60) else hours * 3600 + minutes * 60,
        []) := by
  obtain ⟨a, b, hab, ha, hb, hhour⟩ := decimalPadded_two (n := hours) (by omega)
  obtain ⟨c, d, hcd, hc, hd, hminute⟩ := decimalPadded_two (n := minutes) (by omega)
  have hfive : ¬ 5 < digitValue c := by omega
  have hseconds : (((10 * digitValue a + digitValue b) * 3600 +
      (10 * digitValue c + digitValue d) * 60 : ℕ) : ℤ) = hours * 3600 + minutes * 60 := by
    rw [hhour, hminute]
    push_cast
    rfl
  rw [hab, hcd, readNumericOffset]
  simp only [hsign, ok_bind, List.cons_append, List.nil_append, readTwoDigits, ha, hb, hc, hd,
    Bool.and_self, if_true, readMark_cons, List.mem_singleton, hfive, if_false, hseconds]
  rfl

/-- An offset is read as what it spells. -/
theorem readOffset_spells {offset : ℤ} {zone : List Char} (h : SpellsZone offset zone) :
    readOffset zone = .ok (offset, []) ∧ EndsFraction zone ∧
      (-86400 < offset ∧ offset < 86400) ∧ offset % 60 = 0 := by
  cases h with
  | zulu hc =>
    simp only [List.mem_cons, List.not_mem_nil, or_false] at hc
    obtain rfl | rfl := hc
    · exact ⟨rfl, by rintro c ⟨⟩; decide, by decide, rfl⟩
    · exact ⟨rfl, by rintro c ⟨⟩; decide, by decide, rfl⟩
  | east hhours hminutes =>
    have hread := readNumericOffset_spells '+' false (fun _ => rfl) hhours
      hminutes
    refine ⟨hread, ?_, by omega, by omega⟩
    rintro c ⟨⟩
    decide
  | west hsign hhours hminutes =>
    simp only [List.mem_cons, List.not_mem_nil, or_false] at hsign
    have hread : ∀ sign, (∀ rest, readSign (sign :: rest) = .ok (true, rest)) → _ :=
      fun sign hsign => readNumericOffset_spells sign true hsign hhours hminutes
    obtain rfl | rfl := hsign
    · refine ⟨hread _ fun _ => rfl, ?_, by omega, by omega⟩
      rintro c ⟨⟩
      decide
    · refine ⟨hread _ fun _ => rfl, ?_, by omega, by omega⟩
      rintro c ⟨⟩
      decide

/-! ## Instants -/

/-- An offset is less than a day, so that an instant moves by at most a day when it is shown. -/
theorem offset_of_renders {t : Instant} {offset : ℤ} {cs : List Char} (h : Renders t offset cs) :
    -86400 < offset ∧ offset < 86400 := by
  obtain ⟨_, _, hzone⟩ := h
  exact (readOffset_spells hzone).2.2.1

/-- A rendering is at least as long as its shortest form. The reader refuses anything shorter before
it looks at it. -/
theorem leastSize_le_clockText (seconds : ℤ) (nanos : ℕ) (mark : Char) (rest : List Char) :
    leastSize ≤ utf8Length (clockText seconds nanos mark rest) := by
  refine Nat.le_trans ?_ (length_le_utf8Length _)
  have htwo := le_length_decimalPadded 2
  have hyear := le_length_decimalPadded 4 (CivilDate.ofDays (seconds / 86400)).year.toNat
  have hmonth := htwo (CivilDate.ofDays (seconds / 86400)).month
  have hday := htwo (CivilDate.ofDays (seconds / 86400)).day
  have hhour := htwo ((seconds % 86400).toNat / 3600)
  have hminute := htwo ((seconds % 86400).toNat / 60 % 60)
  have hsecond := htwo ((seconds % 86400).toNat % 60 + if 1000000000 ≤ nanos then 1 else 0)
  simp only [clockText, List.length_append, List.length_cons, leastSize]
  omega

/-- **The texts of an instant read back**, if the year on the clock takes four digits. -/
theorem read_of_renders {t : Instant} {offset : ℤ} {cs : List Char}
    (hnanos : t.nanos < 1000000000 ∨ (t.nanos < 2000000000 ∧ t.seconds % 60 = 59))
    (hyear : 0 ≤ t.yearAt offset ∧ t.yearAt offset ≤ 9999) (h : Renders t offset cs) :
    read cs = .ok ⟨t, offset⟩ := by
  obtain ⟨hmark, hfraction, hzone⟩ := h
  obtain ⟨hoffset, hends, hrange, hminutes⟩ := readOffset_spells hzone
  obtain ⟨seconds, hseconds⟩ : ∃ seconds, seconds = t.seconds + offset := ⟨_, rfl⟩
  have hback : seconds / 86400 * 86400 + ((seconds % 86400).toNat : ℤ) - offset = t.seconds := by
    omega
  have hyear' : 0 ≤ (CivilDate.ofDays (seconds / 86400)).year ∧
      (CivilDate.ofDays (seconds / 86400)).year ≤ 9999 := hseconds ▸ hyear
  have hdate := readDate_write (CivilDate.isValid_ofDays (seconds / 86400)) hyear'.1 hyear'.2
  rw [writeYear, if_pos hyear'] at hdate
  have htime : (seconds % 86400).toNat < 86400 := by omega
  have hclock := readTime_clock htime (by omega) (by omega) (readFraction_spells hfraction hends)
  have hisOffset : ZonedInstant.isOffset offset = true := by
    simpa only [ZonedInstant.isOffset, Bool.and_eq_true, decide_eq_true_eq] using hrange
  rw [read, if_neg (Nat.not_lt.mpr (leastSize_le_clockText _ _ _ _)), ← hseconds, clockText]
  simp only [hdate, ok_bind, readMark_cons hmark, hclock, hoffset, hisOffset, List.isEmpty_nil,
    not_true, if_false, CivilDate.toDays_ofDays, hback]
  rfl

/-! ## What is written -/

theorem spellsFraction_padded {width n nanos : ℕ} (hwidth : 0 < width) (h : n < 10 ^ width)
    (hexact : n * 10 ^ 9 = nanos * 10 ^ width) :
    SpellsFraction nanos ('.' :: decimalPadded width n) := by
  have hlength := length_decimalPadded hwidth h
  refine .point ?_ (List.all_eq_true.mp (all_isDigit_decimalPadded width n)) ?_
  · rw [← List.length_pos_iff, hlength]
    exact hwidth
  · rw [natOfDigits_decimalPadded, hlength]
    exact hexact

/-- The fraction that is written is one of the spellings, with none, three, six or nine digits. -/
theorem spells_writeFraction {nanos : ℕ} (h : nanos < 1000000000) :
    SpellsFraction nanos (writeFraction nanos) := by
  unfold writeFraction
  split
  · next hzero => exact .whole hzero
  · split
    · exact spellsFraction_padded (by decide) (by omega) (by omega)
    · split
      · exact spellsFraction_padded (by decide) (by omega) (by omega)
      · exact spellsFraction_padded (by decide) (by omega) (by omega)

/-- An offset that is written in whole minutes is spelled by it. Seconds of an offset are written as
well, and no spelling has them, so the hypothesis cannot be left out. -/
theorem spells_writeOffset {offset : ℤ} (hday : -86400 < offset ∧ offset < 86400)
    (hminutes : offset % 60 = 0) : SpellsZone offset (writeOffset offset) := by
  have hwhole : offset.natAbs % 60 = 0 := by omega
  have hhours : offset.natAbs / 3600 < 24 := by omega
  have hminutes : offset.natAbs / 60 % 60 < 60 := by omega
  simp only [writeOffset, if_pos hwhole, List.append_nil, List.cons_append, List.nil_append,
    List.append_assoc]
  by_cases hnegative : offset < 0
  · have hoffset : -((offset.natAbs / 3600 : ℕ) * 3600 + (offset.natAbs / 60 % 60 : ℕ) * 60 : ℤ) =
        offset := by omega
    have hspells := SpellsZone.west (List.mem_cons_self : '-' ∈ ['-', '\u2212']) hhours hminutes
    rw [hoffset] at hspells
    rw [if_pos hnegative]
    exact hspells
  · have hoffset : ((offset.natAbs / 3600 : ℕ) * 3600 + (offset.natAbs / 60 % 60 : ℕ) * 60 : ℤ) =
        offset := by omega
    have hspells := SpellsZone.east hhours hminutes
    rw [hoffset] at hspells
    rw [if_neg hnegative]
    exact hspells

/-- The text that an instant is written as is one of its texts. -/
theorem renders_write {t : ZonedInstant}
    (hyear : 0 ≤ t.instant.yearAt t.offset ∧ t.instant.yearAt t.offset ≤ 9999)
    (hday : -86400 < t.offset ∧ t.offset < 86400) (hminutes : t.offset % 60 = 0) :
    Renders t.instant t.offset (write t).toList := by
  have hfraction : SpellsFraction (t.instant.nanos % 1000000000)
      (writeFraction (t.instant.nanos % 1000000000)) := spells_writeFraction (by omega)
  have hrenders : Renders t.instant t.offset _ :=
    .mk (List.mem_cons_self : 'T' ∈ ['T', 't', ' ']) hfraction (spells_writeOffset hday hminutes)
  unfold Instant.yearAt at hyear
  rw [write, String.toList_ofList, writeDateTime_append, writeYear, if_pos hyear]
  exact hrenders

end Rfc3339

end FrameSource
