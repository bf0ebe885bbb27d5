import FrameSource.Proofs.Time.Spelling

/-!
# What a bucket size stands for

A bucket size reads back as an interval: the one that it was written for, without what is left over
after whole units of its `grain`, and not less than a millisecond. `Interval.whole` is that interval.
The grain is an hour, a second or a millisecond, the greatest that the interval reaches; days are
hours that come to whole days.

**Writing a bucket size and reading it rounds toward zero** (`parse_sampleBy`): by less than the
grain, keeping the order of intervals, and a second time changes nothing.
-/

namespace FrameSource.Interval

attribute [ext] Interval

/-- Nanoseconds in a second. -/
def second : Nat := 1000000000

/-- Nanoseconds in a millisecond. -/
def millisecond : Nat := 1000000

/-- The nanoseconds of the unit in which an interval is counted: the greatest of hour, second and
millisecond that it reaches. -/
def grain (d : Interval) : Int :=
  if hour ≤ d.nanos then hour else if second ≤ d.nanos then second else millisecond

/-- The interval in whole units of its grain, at least a millisecond. -/
def whole (d : Interval) : Interval :=
  ⟨max (d.nanos / d.grain * d.grain) millisecond⟩

/-- What is read from the bucket size of `d` when it is `r`. -/
structure Truncates (d r : Interval) : Prop where
  least : d.nanos < millisecond → r = ofMillis 1
  le : millisecond ≤ d.nanos → r.nanos ≤ d.nanos
  hours : hour ≤ d.nanos → d.nanos - r.nanos < hour
  seconds : second ≤ d.nanos → d.nanos < hour → d.nanos - r.nanos < second
  millis : millisecond ≤ d.nanos → d.nanos < second → d.nanos - r.nanos < millisecond
  exact : ∀ n : Nat, 0 < n → d.nanos = n * hour → r = d

variable {d d' : Interval}

/-! ## Rounding to whole units -/

/-- What the grain can be, and what the interval is in whole units of it. A second or an hour is
more than the millisecond that there is at least. -/
theorem whole_cases (d : Interval) :
    (3600000000000 ≤ d.nanos ∧ d.whole.nanos = d.nanos / 3600000000000 * 3600000000000) ∨
      (1000000000 ≤ d.nanos ∧ d.nanos < 3600000000000 ∧
        d.whole.nanos = d.nanos / 1000000000 * 1000000000) ∨
      (d.nanos < 1000000000 ∧ d.whole.nanos = max (d.nanos / 1000000 * 1000000) 1000000) := by
  simp only [whole, grain]
  split_ifs with hhours hseconds <;> simp only [hour, second, millisecond] at *
  · refine .inl ⟨hhours, ?_⟩
    omega
  · refine .inr (.inl ⟨hseconds, ?_, ?_⟩) <;> omega
  · refine .inr (.inr ⟨?_, rfl⟩)
    omega

/-- Taking whole units of the grain keeps to the bounds, one for each grain, and does nothing to
full hours. -/
theorem truncates_whole (d : Interval) : Truncates d d.whole := by
  have hwhole := d.whole_cases
  constructor <;> simp only [hour, second, millisecond, Interval.ext_iff, ofMillis]
  case least | le | hours =>
    intro h
    omega
  case seconds | millis =>
    intro h h'
    omega
  case exact =>
    intro n hn h
    omega

/-- An interval in whole units has the grain that it had before, so nothing more is left over. -/
theorem whole_whole (d : Interval) : d.whole.whole = d.whole := by
  have hwhole := d.whole_cases
  have hagain := d.whole.whole_cases
  rw [Interval.ext_iff]
  omega

/-- Whole units of a smaller grain come to less than one unit of a greater grain. -/
theorem whole_mono (h : d.nanos ≤ d'.nanos) : d.whole.nanos ≤ d'.whole.nanos := by
  have hwhole := d.whole_cases
  have hwhole' := d'.whole_cases
  omega

/-- Intervals reach as far as whole milliseconds in a signed word do, on both sides of zero. -/
theorem inRange_iff : d.inRange = true ↔ d.nanos.natAbs ≤ 9223372036854775807 * 1000000 := by
  rw [inRange, decide_eq_true_iff]

/-- Taking whole units does not leave the range, and neither does the least interval of a
millisecond. -/
theorem inRange_whole (h : d.inRange = true) : d.whole.inRange = true := by
  rw [inRange_iff] at *
  have hwhole := d.whole_cases
  omega

/-! ## Reading a bucket size -/

/-- A bucket size is a number of units, which come to the interval in whole units of its grain. -/
theorem exists_bucket_eq (d : Interval) :
    ∃ (n : Nat) (unit : List Char) (millis : Nat), (unit, millis) ∈ units ∧
      d.bucket = Text.decimal n ++ unit ∧ d.whole = ofMillis (n * millis) := by
  have hwhole := d.whole_cases
  simp only [bucket, ofMillis, Interval.ext_iff]
  split_ifs with hhours hdays hseconds <;> simp only [count, hour] at *
  · refine ⟨_, ['d'], 86400000, by decide, rfl, ?_⟩
    omega
  · refine ⟨_, ['h'], 3600000, by decide, rfl, ?_⟩
    omega
  · refine ⟨_, ['s'], 1000, by decide, rfl, ?_⟩
    omega
  · refine ⟨_, ['T'], 1, by decide, rfl, ?_⟩
    omega

/-- **A bucket size counts whole units**, and neither the count nor its milliseconds are too great
to be read. -/
theorem counts_bucket (h : d.inRange = true) : Counts d.bucket d.whole := by
  obtain ⟨n, unit, millis, known, hbucket, hwhole⟩ := d.exists_bucket_eq
  have hmillis : (n * millis : Int) ≤ Text.int64Max := by
    have hrange := inRange_iff.mp (inRange_whole h)
    simp only [hwhole, ofMillis] at hrange
    rw [Text.int64Max]
    omega
  have hcount : (n : Int) ≤ n * millis := by
    have hall : ∀ u ∈ units, 0 < u.2 := by decide
    exact_mod_cast Nat.le_mul_of_pos_right n (hall _ known)
  have hcounts := Counts.mk (Text.decimal_ne_nil n)
    (List.all_eq_true.mp (Text.all_isDigit_decimal n)) known
  rw [Text.natOfDigits_decimal] at hcounts
  rw [hbucket, hwhole]
  exact hcounts (Int.le_trans hcount hmillis) hmillis

/-- A bucket size is read back as the interval in whole units of its grain. -/
theorem parse_sampleBy_eq (h : d.inRange = true) : parse d.sampleBy = .ok d.whole := by
  rw [parse_eq_ok_iff]
  refine ⟨[], d.bucket, [], ?_, rfl, rfl, counts_bucket h⟩
  rw [sampleBy, String.toList_ofList, List.nil_append, List.append_nil]

/-- **Writing a bucket size and reading it back rounds toward zero**, to whole units of the grain,
but not below a millisecond; it keeps the order of intervals, and what it gives it gives again. -/
theorem parse_sampleBy {d : Interval} (h : d.inRange = true) :
    ∃ r, parse d.sampleBy = .ok r ∧ r.inRange = true ∧ Truncates d r ∧ parse r.sampleBy = .ok r ∧
      ∀ d' r' : Interval, d'.inRange = true → d.nanos ≤ d'.nanos → parse d'.sampleBy = .ok r' →
        r.nanos ≤ r'.nanos := by
  refine ⟨d.whole, parse_sampleBy_eq h, inRange_whole h, truncates_whole d, ?_, ?_⟩
  · rw [parse_sampleBy_eq (inRange_whole h), whole_whole]
  · intro d' r' h' hle hread
    obtain rfl := Except.ok.inj ((parse_sampleBy_eq h').symm.trans hread)
    exact whole_mono hle

/-- A nanosecond less than an hour is counted in seconds, and stays below a day and a half, which is
counted in hours. -/
theorem parse_sampleBy_hour :
    (ofSeconds 3599 999999999).inRange = true ∧ (ofSeconds 129600 0).inRange = true ∧
      parse (ofSeconds 3599 999999999).sampleBy = .ok (ofSeconds 3599 0) ∧
      parse (ofSeconds 129600 0).sampleBy = .ok (ofSeconds 129600 0) ∧
      Truncates (ofSeconds 3599 999999999) (ofSeconds 3599 0) ∧
      parse (ofSeconds 3599 0).sampleBy = .ok (ofSeconds 3599 0) ∧
      (ofSeconds 3599 0).nanos ≤ (ofSeconds 129600 0).nanos := by
  have hrange : (ofSeconds 3599 999999999).inRange = true := by decide
  have hrange' : (ofSeconds 129600 0).inRange = true := by decide
  have hread : parse (ofSeconds 3599 999999999).sampleBy = .ok (ofSeconds 3599 0) := by
    decide +kernel
  have hread' : parse (ofSeconds 129600 0).sampleBy = .ok (ofSeconds 129600 0) := by
    decide +kernel
  obtain ⟨r, hr, _, htruncates, hagain, hmono⟩ := parse_sampleBy hrange
  obtain rfl := Except.ok.inj (hr.symm.trans hread)
  exact ⟨hrange, hrange', hread, hread', htruncates, hagain,
    hmono _ _ hrange' (by decide) hread'⟩

end FrameSource.Interval
