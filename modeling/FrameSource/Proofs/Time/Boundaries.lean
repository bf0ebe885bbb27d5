import FrameSource.Proofs.Time.Renderings
import FrameSource.Query.Vocabulary
import FrameSource.Time.Range

/-!
# Boundaries in any zone

The boundaries of a range are given as texts. Such a text shows an instant on the clock of some zone,
with blanks before and after it (`ZonedInstant.Shows`); a rendering may hold a blank itself, between
the date and the time, but it neither starts nor ends with one, so that trimming leaves just the
rendering (`trim_of_renders`).

**Zones do not matter** (`TimeRange.parse_shown`): two texts that show instants make the range between
these instants, and every template expands as it does for the range of the instants in UTC.
-/

namespace FrameSource

namespace Rfc3339

open Text

variable {t : Instant} {offset : ℤ} {cs b₁ b₂ zone : List Char}

theorem isBlank_of_mem_decimalPadded {width n : ℕ} {c : Char} (h : c ∈ decimalPadded width n) :
    isBlank c = false :=
  isBlank_of_isDigit (List.all_eq_true.mp (all_isDigit_decimalPadded width n) c h)

/-- The digits of an offset hold no blank. -/
theorem isBlank_of_mem_offsetDigits {hours minutes : ℕ} {c : Char}
    (h : c ∈ decimalPadded 2 hours ++ ':' :: decimalPadded 2 minutes) : isBlank c = false := by
  rw [List.mem_append, List.mem_cons] at h
  obtain hhours | rfl | hminutes := h
  · exact isBlank_of_mem_decimalPadded hhours
  · rfl
  · exact isBlank_of_mem_decimalPadded hminutes

/-- An offset is spelled without blanks. -/
theorem isBlank_of_spellsZone (h : SpellsZone offset zone) :
    zone ≠ [] ∧ ∀ c ∈ zone, isBlank c = false := by
  cases h with
  | zulu hc =>
    simp only [List.mem_cons, List.not_mem_nil, or_false] at hc
    refine ⟨List.cons_ne_nil _ _, List.forall_mem_singleton.mpr ?_⟩
    obtain rfl | rfl := hc <;> rfl
  | east =>
    exact ⟨List.cons_ne_nil _ _,
      List.forall_mem_cons.mpr ⟨rfl, fun _ => isBlank_of_mem_offsetDigits⟩⟩
  | west hsign =>
    simp only [List.mem_cons, List.not_mem_nil, or_false] at hsign
    refine ⟨List.cons_ne_nil _ _,
      List.forall_mem_cons.mpr ⟨?_, fun _ => isBlank_of_mem_offsetDigits⟩⟩
    obtain rfl | rfl := hsign <;> rfl

/-- What follows date and time stands at the end of the text. -/
theorem clockText_append (seconds : ℤ) (nanos : ℕ) (mark : Char) (cs rest : List Char) :
    clockText seconds nanos mark (cs ++ rest) = clockText seconds nanos mark cs ++ rest := by
  simp only [clockText, List.append_assoc, List.cons_append]

/-- A rendering starts with the digits of its year. -/
theorem isBlank_head_clockText (seconds : ℤ) (nanos : ℕ) (mark : Char) (rest : List Char) :
    ∀ c ∈ (clockText seconds nanos mark rest).head?, isBlank c = false := by
  intro c hc
  have hlength := le_length_decimalPadded 4 (CivilDate.ofDays (seconds / 86400)).year.toNat
  rw [clockText, List.head?_append_of_ne_nil _ (List.ne_nil_of_length_pos (by omega))] at hc
  exact isBlank_of_mem_decimalPadded (List.mem_of_mem_head? hc)

/-- Trimming takes away the blanks around a rendering, and only those. -/
theorem trim_of_renders (h : Renders t offset cs) (h₁ : allBlank b₁ = true)
    (h₂ : allBlank b₂ = true) : trim (b₁ ++ cs ++ b₂) = cs := by
  obtain ⟨_, _, hzone⟩ := h
  obtain ⟨hne, hblank⟩ := isBlank_of_spellsZone hzone
  have hhead := isBlank_head_clockText (t.seconds + offset) t.nanos
  rw [clockText_append]
  refine trim_between h₁ h₂ (List.append_ne_nil_of_right_ne_nil _ hne) ?_ ?_
  · rw [← clockText_append]
    exact hhead _ _
  · intro c hc
    rw [List.getLast?_append_of_ne_nil _ hne] at hc
    exact hblank c (List.mem_of_mem_getLast? hc)

end Rfc3339

/-! ## Texts that show an instant -/

namespace ZonedInstant

variable {t : ZonedInstant} {s : String}

/-- An instant that exists, at an offset of whole minutes where its year takes four digits. -/
structure Showable (t : ZonedInstant) : Prop where
  isInstant : t.instant.isValid = true
  withinDay : -86400 < t.offset ∧ t.offset < 86400
  wholeMinutes : t.offset % 60 = 0
  year : 0 ≤ t.instant.yearAt t.offset ∧ t.instant.yearAt t.offset ≤ 9999

/-- The texts that show an instant at its offset, with any blanks before and after it. -/
inductive Shows (t : ZonedInstant) : String → Prop
  | mk {before cs after : List Char} (hbefore : Text.allBlank before = true)
      (hrenders : Rfc3339.Renders t.instant t.offset cs) (hafter : Text.allBlank after = true) :
    Shows t (String.ofList (before ++ cs ++ after))

/-- The text that an instant is written as shows it. -/
theorem Showable.shows_write (h : t.Showable) : t.Shows (Rfc3339.write t) := by
  have hrenders := Rfc3339.renders_write h.year h.withinDay h.wholeMinutes
  have hshows : t.Shows (String.ofList ([] ++ (Rfc3339.write t).toList ++ [])) :=
    .mk rfl hrenders rfl
  rwa [List.nil_append, List.append_nil, String.ofList_toList] at hshows

/-- A text that shows an instant is read as that instant. -/
theorem Shows.parseBoundary (hshows : t.Shows s) (h : t.Showable) :
    TimeRange.parseBoundary s = .ok t := by
  obtain ⟨hbefore, hrenders, hafter⟩ := hshows
  have hnanos := (Instant.isValid_iff.mp h.isInstant).2.2
  rw [TimeRange.parseBoundary, String.toList_ofList,
    Rfc3339.trim_of_renders hrenders hbefore hafter, Rfc3339.read_of_renders hnanos h.year hrenders]

end ZonedInstant

namespace TimeRange

/-- **Zones do not matter**: every two texts that show instants make the range of these instants in
UTC, and templates expand as they do for that range. -/
theorem parse_shown {start stop : ZonedInstant} (hstart : start.Showable) (hstop : stop.Showable) :
    start.Shows (Rfc3339.write start) ∧ stop.Shows (Rfc3339.write stop) ∧
      ∀ a b, start.Shows a → stop.Shows b →
        parse a b = .ok (ofZoned start.instant.utc stop.instant.utc) ∧
        ∀ (v : Vocabulary) (template : String) (interval : Interval),
          (parse a b).map (fun range => v.expand template ⟨range, interval⟩) =
            .ok (v.expand template ⟨ofZoned start.instant.utc stop.instant.utc, interval⟩) := by
  refine ⟨hstart.shows_write, hstop.shows_write, fun a b ha hb => ?_⟩
  have hparse : parse a b = .ok (ofZoned start.instant.utc stop.instant.utc) := by
    rw [parse, ha.parseBoundary hstart, hb.parseBoundary hstop]
    rfl
  refine ⟨hparse, fun v template interval => ?_⟩
  rw [hparse, Except.map]

/-- The last nanosecond before the epoch, on a clock to the east that shows the year after. -/
def beforeEpoch : ZonedInstant := ⟨⟨-1, 999999999⟩, 19800⟩

/-- A quarter into the leap second that ended 2016, on a clock to the west. -/
def leapSecond : ZonedInstant := ⟨⟨1483228799, 1250000000⟩, -28800⟩

/-- A range from just before the epoch to a leap second, with blanks of several kinds around the
boundaries and with offsets to both sides. -/
theorem parse_beforeEpoch_leapSecond :
    beforeEpoch.Showable ∧ leapSecond.Showable ∧
      beforeEpoch.Shows "\t1970-01-01 05:29:59.9999999990+05:30\u3000" ∧
      leapSecond.Shows "\u2003 2016-12-31t15:59:60.25-08:00\n" ∧
      parse "\t1970-01-01 05:29:59.9999999990+05:30\u3000"
          "\u2003 2016-12-31t15:59:60.25-08:00\n" =
        .ok ⟨⟨-1, 999999999⟩, ⟨1483228799, 1250000000⟩⟩ := by
  have hstart : beforeEpoch.Showable := ⟨by decide, by decide, rfl, by decide⟩
  have hstop : leapSecond.Showable := ⟨by decide, by decide, rfl, by decide⟩
  have hdigits : "9999999990".toList.all Text.isDigit = true := rfl
  have hfraction : Rfc3339.SpellsFraction (beforeEpoch.instant.nanos % 1000000000)
      ('.' :: "9999999990".toList) :=
    .point (by decide) (List.all_eq_true.mp hdigits) (by decide)
  have heast : Rfc3339.SpellsZone beforeEpoch.offset "+05:30".toList :=
    .east (by decide : 5 < 24) (by decide : 30 < 60)
  have hbefore : Text.allBlank ['\t'] = true := rfl
  have hafter : Text.allBlank ['\u3000'] = true := rfl
  have ha : beforeEpoch.Shows "\t1970-01-01 05:29:59.9999999990+05:30\u3000" :=
    .mk hbefore (.mk (by decide : ' ' ∈ ['T', 't', ' ']) hfraction heast) hafter
  have hquarter : Rfc3339.SpellsFraction (leapSecond.instant.nanos % 1000000000)
      ('.' :: "25".toList) :=
    .point (by decide) (List.all_eq_true.mp (rfl : "25".toList.all Text.isDigit = true)) (by decide)
  have hwest : Rfc3339.SpellsZone leapSecond.offset "-08:00".toList :=
    .west (List.mem_cons_self : '-' ∈ ['-', '\u2212']) (by decide : 8 < 24) (by decide : 0 < 60)
  have hbefore' : Text.allBlank ['\u2003', ' '] = true := rfl
  have hafter' : Text.allBlank ['\n'] = true := rfl
  have hb : leapSecond.Shows "\u2003 2016-12-31t15:59:60.25-08:00\n" :=
    .mk hbefore' (.mk (by decide : 't' ∈ ['T', 't', ' ']) hquarter hwest) hafter'
  exact ⟨hstart, hstop, ha, hb, ((parse_shown hstart hstop).2.2 _ _ ha hb).1⟩

end TimeRange

end FrameSource
