import FrameSource.Proofs.Time.Calendar
import FrameSource.Time.Rfc3339

/-!
# Instants as text and back

A date and time that were written are read back, whatever offset is written after them
(`read_writeDateTime`), as long as the year takes four digits. Each part of the text is read off its
front and leaves the rest: fields of digits that are filled up with zeros (`readFixed_decimalPadded`),
the date (`readDate_write`), the fraction in any of its lengths (`readFraction_write`), and the time,
where second 60 stands for a leap second (`readTime_write`).

**An instant in UTC reads back** (`read_writeZulu`).
-/

namespace FrameSource

/-! ## Digits -/

namespace Text

theorem all_isDigit_decimalPadded (width n : Nat) : (decimalPadded width n).all isDigit = true := by
  rw [decimalPadded, List.all_append, all_isDigit_decimal, Bool.and_true, List.all_eq_true]
  intro c hc
  rw [(List.mem_replicate.mp hc).2]
  rfl

theorem le_length_decimalPadded (width n : Nat) : width ≤ (decimalPadded width n).length := by
  rw [decimalPadded, List.length_append, List.length_replicate]
  omega

/-- Padding gives exactly the width, as long as the number does not need more. -/
theorem length_decimalPadded {width n : Nat} (hwidth : 0 < width) (h : n < 10 ^ width) :
    (decimalPadded width n).length = width := by
  have hle : (decimal n).length ≤ width := (Nat.length_toDigits_le_iff (by decide) hwidth).mpr h
  rw [decimalPadded, List.length_append, List.length_replicate]
  omega

theorem natOfDigits_decimalPadded (width n : Nat) : natOfDigits (decimalPadded width n) = n := by
  rw [natOfDigits, decimalPadded, Nat.ofDigitChars_append, Nat.ofDigitChars_replicate_zero,
    Nat.mul_zero]
  exact natOfDigits_decimal n

end Text

/-- The year of an instant on a clock in UTC. -/
def Instant.utcYear (t : Instant) : Int :=
  (CivilDate.ofDays (t.seconds / 86400)).year

namespace Rfc3339

open Text

theorem ok_bind {ε α β : Type} (a : α) (f : α → Except ε β) : (Except.ok a >>= f) = f a := rfl

/-- A field of fixed width is read by its width, and no character behind it is looked at. -/
theorem readFixed_digits {ds : List Char} (h : ds.all isDigit = true) (n : Nat)
    (rest : List Char) :
    readFixed ds.length n (ds ++ rest) = .ok (Nat.ofDigitChars 10 ds n, rest) := by
  induction ds generalizing n with
  | nil => rfl
  | cons c ds ih =>
    rw [List.all_cons, Bool.and_eq_true] at h
    rw [List.length_cons, List.cons_append, readFixed, if_pos h.1, ih h.2,
      Nat.ofDigitChars_cons]
    rfl

/-- A number that was filled up to a width is read back by that width. -/
theorem readFixed_decimalPadded {width n : Nat} (hwidth : 0 < width) (h : n < 10 ^ width)
    (rest : List Char) : readFixed width 0 (decimalPadded width n ++ rest) = .ok (n, rest) := by
  have hread := readFixed_digits (all_isDigit_decimalPadded width n) 0 rest
  rw [length_decimalPadded hwidth h] at hread
  rw [hread]
  exact congrArg (fun n => Except.ok (n, rest)) (natOfDigits_decimalPadded width n)

theorem readMark_cons {marks : List Char} {c : Char} (h : c ∈ marks) (rest : List Char) :
    readMark marks (c :: rest) = .ok ((), rest) := by
  rw [readMark, if_pos h]

/-! ## The date -/

/-- A date of a year with four digits is read back. Years outside are written with a sign and more
digits. -/
theorem readDate_write {date : CivilDate} (hvalid : date.isValid = true) (hyear : 0 ≤ date.year)
    (hyear' : date.year ≤ 9999) (rest : List Char) :
    readDate (writeYear date.year ++ '-' :: (decimalPadded 2 date.month ++
      '-' :: (decimalPadded 2 date.day ++ rest))) = .ok (date, rest) := by
  obtain ⟨⟨_, hmonth⟩, _, hday⟩ := CivilDate.isValid_iff.mp hvalid
  have hdays := Calendar.daysInMonth_le date.year date.month
  have hmonth2 : date.month < 10 ^ 2 := by omega
  have hday2 : date.day < 10 ^ 2 := by omega
  have hfour : date.year.toNat < 10 ^ 4 := by omega
  have hnat : ((date.year.toNat : Nat) : Int) = date.year := Int.toNat_of_nonneg hyear
  rw [writeYear, if_pos ⟨hyear, hyear'⟩, readDate, readFixed_decimalPadded (by decide) hfour,
    ok_bind]
  simp only [readMark_cons, List.mem_singleton, ok_bind,
    readFixed_decimalPadded (by decide) hmonth2, readFixed_decimalPadded (by decide) hday2, hnat,
    hvalid, if_true]
  rfl

/-! ## The time -/

/-- A text goes on with something else than digits or a fraction. -/
def EndsFraction (rest : List Char) : Prop :=
  ∀ c ∈ rest.head?, isDigit c = false ∧ c ≠ '.'

theorem EndsFraction.takeWhile {rest : List Char} (h : EndsFraction rest) :
    rest.takeWhile isDigit = [] ∧ rest.dropWhile isDigit = rest := by
  cases rest with
  | nil => exact ⟨rfl, rfl⟩
  | cons c rest =>
    have hc : isDigit c = false := (h c rfl).1
    rw [List.takeWhile_cons, List.dropWhile_cons, hc]
    exact ⟨rfl, rfl⟩

/-- Up to nine digits after the point count as nanoseconds. -/
theorem readFraction_point {width n : Nat} (hwidth : 0 < width) (hnine : width ≤ 9)
    (h : n < 10 ^ width) {rest : List Char} (hrest : EndsFraction rest) :
    readFraction ('.' :: (decimalPadded width n ++ rest)) =
      .ok (n * 10 ^ (9 - width), rest) := by
  have hdigits : ∀ c ∈ decimalPadded width n, isDigit c = true :=
    List.all_eq_true.mp (all_isDigit_decimalPadded width n)
  have hlength := length_decimalPadded hwidth h
  have htake : (decimalPadded width n ++ rest).takeWhile isDigit = decimalPadded width n := by
    rw [List.takeWhile_append_of_pos hdigits, hrest.takeWhile.1, List.append_nil]
  have hdrop : (decimalPadded width n ++ rest).dropWhile isDigit = rest := by
    rw [List.dropWhile_append_of_pos hdigits, hrest.takeWhile.2]
  have hkept : (decimalPadded width n).take 9 = decimalPadded width n :=
    List.take_of_length_le (hlength.le.trans hnine)
  have hsome : (decimalPadded width n).isEmpty = false := by
    rw [List.isEmpty_eq_false_iff, ← List.length_pos_iff, hlength]
    exact hwidth
  simp only [readFraction, htake, hdrop, hsome, hkept, hlength, natOfDigits_decimalPadded]
  rfl

/-- A fraction is read back from as many digits as it was written with. -/
theorem readFraction_write {nanos : Nat} (h : nanos < 1000000000) {rest : List Char}
    (hrest : EndsFraction rest) :
    readFraction (writeFraction nanos ++ rest) = .ok (nanos, rest) := by
  unfold writeFraction
  split
  · next hzero =>
    subst hzero
    unfold readFraction
    -- Nothing was written, so the text goes on, and it does not go on with a point.
    split
    · next heq =>
      have hpoint := hrest '.' (by rw [← List.nil_append rest, heq]; rfl)
      exact absurd rfl hpoint.2
    · rfl
  · split
    · have hthree : nanos / 1000000 * 10 ^ (9 - 3) = nanos := by omega
      rw [List.cons_append, readFraction_point (by decide) (by decide) (by omega) hrest, hthree]
    · split
      · have hsix : nanos / 1000 * 10 ^ (9 - 6) = nanos := by omega
        rw [List.cons_append, readFraction_point (by decide) (by decide) (by omega) hrest, hsix]
      · have hnine : nanos * 10 ^ (9 - 9) = nanos := by omega
        rw [List.cons_append, readFraction_point (by decide) (by decide) (by omega) hrest, hnine]

/-- A time of day is read with whatever fraction is written; in a leap second, which is the last of
its minute, the second is written as 60. -/
theorem readTime_clock {time nanos : Nat} (htime : time < 86400) (hnanos : nanos < 2000000000)
    (hleap : 1000000000 ≤ nanos → time % 60 = 59) {cs rest : List Char}
    (hfraction : readFraction cs = .ok (nanos % 1000000000, rest)) :
    readTime (decimalPadded 2 (time / 3600) ++ ':' :: (decimalPadded 2 (time / 60 % 60) ++
      ':' :: (decimalPadded 2 (time % 60 + if 1000000000 ≤ nanos then 1 else 0) ++ cs))) =
      .ok ((time, nanos), rest) := by
  have hfields : time / 3600 < 10 ^ 2 ∧ time / 60 % 60 < 10 ^ 2 ∧
      (time % 60 + if 1000000000 ≤ nanos then 1 else 0) < 10 ^ 2 := by
    split <;> omega
  have hinRange : ¬ (23 < time / 3600 ∨ 59 < time / 60 % 60 ∨
      60 < time % 60 + if 1000000000 ≤ nanos then 1 else 0) := by
    split <;> omega
  simp only [readTime, readMark_cons, List.mem_singleton, ok_bind,
    readFixed_decimalPadded (by decide) hfields.1, readFixed_decimalPadded (by decide) hfields.2.1,
    readFixed_decimalPadded (by decide) hfields.2.2, hfraction, hinRange, if_false]
  -- A second that reads 60 is taken back to 59, with a whole second of nanoseconds more.
  by_cases hsecond : 1000000000 ≤ nanos
  · have hlast := hleap hsecond
    have hsixty : (time % 60 + if 1000000000 ≤ nanos then 1 else 0) = 60 := by
      rw [if_pos hsecond, hlast]
    have hseconds : time / 3600 * 3600 + time / 60 % 60 * 60 + 59 = time := by omega
    have hback : 1000000000 + nanos % 1000000000 = nanos := by omega
    rw [if_pos hsixty, hseconds, hback]
    rfl
  · have hplain : (time % 60 + if 1000000000 ≤ nanos then 1 else 0) = time % 60 := by
      rw [if_neg hsecond, Nat.add_zero]
    have hseconds : time / 3600 * 3600 + time / 60 % 60 * 60 + time % 60 = time := by omega
    have hback : nanos % 1000000000 = nanos := by omega
    rw [hplain, if_neg (by omega), hseconds, hback]
    rfl

/-- A time of day is read back. -/
theorem readTime_write {time nanos : Nat} (htime : time < 86400) (hnanos : nanos < 2000000000)
    (hleap : 1000000000 ≤ nanos → time % 60 = 59) {rest : List Char} (hrest : EndsFraction rest) :
    readTime (decimalPadded 2 (time / 3600) ++ ':' :: (decimalPadded 2 (time / 60 % 60) ++
      ':' :: (decimalPadded 2 (time % 60 + if 1000000000 ≤ nanos then 1 else 0) ++
        (writeFraction (nanos % 1000000000) ++ rest)))) = .ok ((time, nanos), rest) :=
  readTime_clock htime hnanos hleap (readFraction_write (by omega) hrest)

/-! ## Date and time -/

theorem length_le_utf8Length (cs : List Char) : cs.length ≤ utf8Length cs := by
  induction cs with
  | nil => exact Nat.le_refl 0
  | cons c cs ih =>
    have hc := c.utf8Size_pos
    show cs.length + 1 ≤ c.utf8Size + utf8Length cs
    omega

/-- The parts of a written date and time, in front of what follows. -/
theorem writeDateTime_append (seconds : Int) (nanos : Nat) (rest : List Char) :
    writeDateTime seconds nanos ++ rest =
      writeYear (CivilDate.ofDays (seconds / 86400)).year ++
        '-' :: (decimalPadded 2 (CivilDate.ofDays (seconds / 86400)).month ++
        '-' :: (decimalPadded 2 (CivilDate.ofDays (seconds / 86400)).day ++
        'T' :: (decimalPadded 2 ((seconds % 86400).toNat / 3600) ++
        ':' :: (decimalPadded 2 ((seconds % 86400).toNat / 60 % 60) ++
        ':' :: (decimalPadded 2 ((seconds % 86400).toNat % 60 +
            if 1000000000 ≤ nanos then 1 else 0) ++
          (writeFraction (nanos % 1000000000) ++ rest)))))) := by
  simp only [writeDateTime, List.append_assoc, List.cons_append, List.nil_append]

/-- No date and time is too short to be read. -/
theorem leastSize_le (seconds : Int) (nanos : Nat) (rest : List Char) :
    leastSize ≤ utf8Length (writeDateTime seconds nanos ++ rest) := by
  refine Nat.le_trans ?_ (length_le_utf8Length _)
  have hyear : 4 ≤ (writeYear (CivilDate.ofDays (seconds / 86400)).year).length := by
    unfold writeYear
    split
    · exact le_length_decimalPadded 4 _
    · exact Nat.le_succ_of_le (le_length_decimalPadded 4 _)
  have htwo := le_length_decimalPadded 2
  have hmonth := htwo (CivilDate.ofDays (seconds / 86400)).month
  have hday := htwo (CivilDate.ofDays (seconds / 86400)).day
  have hhour := htwo ((seconds % 86400).toNat / 3600)
  have hminute := htwo ((seconds % 86400).toNat / 60 % 60)
  have hsecond := htwo ((seconds % 86400).toNat % 60 + if 1000000000 ≤ nanos then 1 else 0)
  rw [writeDateTime_append]
  simp only [List.length_append, List.length_cons, leastSize]
  omega

/-- **What was written is read back**, together with an offset that follows it. -/
theorem read_writeDateTime {seconds offset : Int} {nanos : Nat} {zone : List Char}
    (hyear : 0 ≤ (CivilDate.ofDays (seconds / 86400)).year ∧
      (CivilDate.ofDays (seconds / 86400)).year ≤ 9999)
    (hnanos : nanos < 1000000000 ∨ (nanos < 2000000000 ∧ seconds % 60 = 59))
    (hzone : readOffset zone = .ok (offset, [])) (hends : EndsFraction zone)
    (hoffset : ZonedInstant.isOffset offset = true) :
    read (writeDateTime seconds nanos ++ zone) = .ok ⟨⟨seconds - offset, nanos⟩, offset⟩ := by
  obtain ⟨time, htime⟩ : ∃ time, time = (seconds % 86400).toNat := ⟨_, rfl⟩
  have hday : time < 86400 := by omega
  have hleast : nanos < 2000000000 := by omega
  have hleap : 1000000000 ≤ nanos → time % 60 = 59 := by omega
  have hdate := readDate_write (CivilDate.isValid_ofDays (seconds / 86400)) hyear.1 hyear.2
  have hclock := readTime_write hday hleast hleap hends
  have hseconds : seconds / 86400 * 86400 + (time : Int) - offset = seconds - offset := by omega
  rw [read, if_neg (Nat.not_lt.mpr (leastSize_le seconds nanos zone)), writeDateTime_append,
    ← htime]
  simp only [hdate, ok_bind, readMark_cons, List.mem_cons, true_or, hclock, hzone, hoffset,
    List.isEmpty_nil, not_true, if_false, CivilDate.toDays_ofDays, hseconds]
  rfl

/-- **An instant in UTC reads back**, if its year takes four digits. -/
theorem read_writeZulu {t : Instant} (hvalid : t.isValid = true)
    (hyear : 0 ≤ t.utcYear ∧ t.utcYear ≤ 9999) :
    read (writeZulu t).toList = .ok t.utc := by
  have hnanos : t.nanos < 1000000000 ∨ (t.nanos < 2000000000 ∧ t.seconds % 60 = 59) := by
    simp only [Instant.isValid, Bool.and_eq_true, Bool.or_eq_true, decide_eq_true_eq] at hvalid
    exact hvalid.2
  have hzone : readOffset ['Z'] = .ok (0, []) := rfl
  have hends : EndsFraction ['Z'] := by
    rintro c ⟨⟩
    decide
  have hread := read_writeDateTime hyear hnanos hzone hends rfl
  rw [Int.sub_zero] at hread
  rw [writeZulu, String.toList_ofList]
  exact hread

end Rfc3339

end FrameSource
