import FrameSource.Proofs.Time.Microseconds
import FrameSource.Query.Expander

/-!
# The bounds of a time filter

A time filter is a predicate on a column: at least one literal, at most another.
`TimeFilter.bounds?` reads the two numbers back from such a text, given the column; the column may
be any text at all, also one that looks like a literal itself.

**The lower bound comes from the start and the upper one from the end** (`timeFilter_bounds`): each
is the boundary in whole microseconds, rounded down, in a signed 64-bit word. If the start is not
after the end, and not inside of a leap second, the lower bound is not above the upper one.
-/

namespace FrameSource

/-! ## Reading the bounds -/

namespace TimeFilter

/-- The number in the literal at the front of a text, and what follows the literal. -/
def literal? (cs : List Char) : Option (Int64 × List Char) := do
  let inner ← "cast(".toList.isPrefixOf? cs
  let n ← Text.readInt? (inner.takeWhile fun c => !Text.isBlank c)
  let rest ← " as timestamp)".toList.isPrefixOf? (inner.dropWhile fun c => !Text.isBlank c)
  return (← Word.ofInt? n, rest)

/-- The least and the greatest number of microseconds that a predicate allows in a column. -/
def bounds? (column text : String) : Option (Int64 × Int64) := do
  let cs ← (column ++ " >= ").toList.isPrefixOf? text.toList
  let (lower, cs) ← literal? cs
  let cs ← (" AND " ++ column ++ " <= ").toList.isPrefixOf? cs
  let (upper, cs) ← literal? cs
  if cs.isEmpty then return (lower, upper) else none

/-- A text is cut off where it ends. -/
theorem isPrefixOf?_append (cs rest : List Char) : cs.isPrefixOf? (cs ++ rest) = some rest :=
  List.isPrefixOf?_eq_some_iff_append_eq.mpr rfl

/-- No numeral has a blank in it, so it ends in front of the first one. -/
theorem takeWhile_decimalInt_append (n : ℤ) (rest : List Char) :
    (Text.decimalInt n ++ ' ' :: rest).takeWhile (fun c => !Text.isBlank c) = Text.decimalInt n ∧
      (Text.decimalInt n ++ ' ' :: rest).dropWhile (fun c => !Text.isBlank c) = ' ' :: rest := by
  have hblank : ∀ c ∈ Text.decimalInt n, (!Text.isBlank c) = true := by
    intro c hc
    rw [(Text.of_readInt? (Text.readInt?_decimalInt n)).2 c hc]
    rfl
  have hspace : Text.isBlank ' ' = true := rfl
  rw [List.takeWhile_append_of_pos hblank, List.dropWhile_append_of_pos hblank,
    List.takeWhile_cons, List.dropWhile_cons, hspace]
  exact ⟨List.append_nil _, rfl⟩

/-- A literal is read back. -/
theorem literal?_timestampLiteral (w : Int64) (rest : List Char) :
    literal? ((Expander.timestampLiteral w.toInt).toList ++ rest) = some (w, rest) := by
  have htext : (Expander.timestampLiteral w.toInt).toList ++ rest =
      "cast(".toList ++ (Text.decimalInt w.toInt ++ (" as timestamp)".toList ++ rest)) := by
    simp only [Expander.timestampLiteral, Text.intText, String.toList_append, String.toList_ofList,
      List.append_assoc]
  have hnumeral := takeWhile_decimalInt_append w.toInt ("as timestamp)".toList ++ rest)
  have hrest : ' ' :: ("as timestamp)".toList ++ rest) = " as timestamp)".toList ++ rest := rfl
  rw [hrest] at hnumeral
  rw [htext]
  simp only [literal?, isPrefixOf?_append, hnumeral.1, hnumeral.2, Text.readInt?_decimalInt,
    Word.ofInt?_toInt, Option.bind_eq_bind, Option.bind_some, Option.pure_def]

end TimeFilter

/-! ## The filter of a range -/

namespace Expander

open TimeFilter

variable {ctx : QueryContext}

/-- Both bounds are read back from a filter. -/
theorem bounds?_timeFilter {lower upper : Int64} (hlower : lower.toInt = ctx.range.startMicros)
    (hupper : upper.toInt = ctx.range.stopMicros) (column : String) :
    ∃ text, timeFilter ctx [column] = .ok text ∧ bounds? column text = some (lower, upper) := by
  refine ⟨_, rfl, ?_⟩
  have htext : (column ++ " >= " ++ timestampLiteral ctx.range.startMicros ++ " AND " ++
      column ++ " <= " ++ timestampLiteral ctx.range.stopMicros).toList =
      (column ++ " >= ").toList ++ ((timestampLiteral lower.toInt).toList ++
        ((" AND " ++ column ++ " <= ").toList ++
          ((timestampLiteral upper.toInt).toList ++ []))) := by
    rw [hlower, hupper]
    simp only [String.toList_append, List.append_assoc, List.append_nil]
  rw [bounds?, htext]
  simp only [isPrefixOf?_append, literal?_timestampLiteral, Option.bind_eq_bind, Option.bind_some,
    List.isEmpty_nil, if_true, Option.pure_def]

/-- **The bounds of a time filter**, on whatever column: the boundaries of the range in
microseconds, rounded down and computed within the words. They are in order if the boundaries are
and the range does not start inside of a leap second. -/
theorem timeFilter_bounds (hstart : ctx.range.start.InReach) (hstop : ctx.range.stop.InReach)
    (column : String) :
    ∃ lower upper : Int64,
      (ctx.range.start.wordMicros? = some lower ∧ ctx.range.startMicros = lower.toInt ∧
        lower.toInt = ⌊(ctx.range.start.nanosSinceEpoch : ℚ) / 1000⌋) ∧
      (ctx.range.stop.wordMicros? = some upper ∧ ctx.range.stopMicros = upper.toInt ∧
        upper.toInt = ⌊(ctx.range.stop.nanosSinceEpoch : ℚ) / 1000⌋) ∧
      (∃ text, timeFilter ctx [column] = .ok text ∧ bounds? column text = some (lower, upper)) ∧
      (¬ ctx.range.start.IsLeap → ctx.range.start ≤ ctx.range.stop → lower ≤ upper) := by
  obtain ⟨lower, hlower, hlowerInt⟩ := Instant.exists_wordMicros? hstart
  obtain ⟨upper, hupper, hupperInt⟩ := Instant.exists_wordMicros? hstop
  refine ⟨lower, upper, ⟨hlower, hlowerInt.symm, ?_⟩, ⟨hupper, hupperInt.symm, ?_⟩,
    bounds?_timeFilter hlowerInt hupperInt column, ?_⟩
  · rw [hlowerInt, Instant.micros_eq_floor]
  · rw [hupperInt, Instant.micros_eq_floor]
  · intro hleap hle
    rw [Int64.le_iff_toInt_le, hlowerInt, hupperInt]
    exact Instant.micros_le_micros hleap hle

/-- From the first to the last nanosecond of the calendar. -/
def wholeCalendar : QueryContext :=
  ⟨⟨⟨Instant.firstSecond, 0⟩, ⟨Instant.lastSecond, 999999999⟩⟩, .zero⟩

/-- Both ends of the calendar, and a column that looks like the end of a filter. -/
theorem timeFilter_bounds_wholeCalendar :
    wholeCalendar.range.start.InReach ∧ wholeCalendar.range.stop.InReach ∧
      wholeCalendar.range.start ≤ wholeCalendar.range.stop ∧
      ∃ text, timeFilter wholeCalendar ["t <= cast(0 as timestamp)"] = .ok text ∧
        bounds? "t <= cast(0 as timestamp)" text =
          some (-8334601228800000000, 8210266876799999999) := by
  have hstart : wholeCalendar.range.start.InReach := ⟨by decide, by decide, by decide⟩
  have hstop : wholeCalendar.range.stop.InReach := ⟨by decide, by decide, by decide⟩
  have hle : wholeCalendar.range.start ≤ wholeCalendar.range.stop := Or.inl (by decide)
  obtain ⟨lower, upper, ⟨hlower, -, -⟩, ⟨hupper, -, -⟩, hbounds, -⟩ :=
    timeFilter_bounds hstart hstop "t <= cast(0 as timestamp)"
  have hfirst : wholeCalendar.range.start.wordMicros? = some (-8334601228800000000) := by decide
  have hlast : wholeCalendar.range.stop.wordMicros? = some 8210266876799999999 := by decide
  obtain rfl := Option.some.inj (hlower.symm.trans hfirst)
  obtain rfl := Option.some.inj (hupper.symm.trans hlast)
  exact ⟨hstart, hstop, hle, hbounds⟩

end Expander

end FrameSource
