import FrameSource.Proofs.Text.Numerals
import FrameSource.Time.Interval

/-!
# How an interval is spelled

The texts that denote intervals, said without a reader. `Interval.Counts` is a count with its unit:
one or more digits, and a unit out of the table, with nothing between them and nothing else;
`Interval.Denotes` allows blanks around it. The count may have leading zeros, as many as it likes,
but it and the milliseconds that it comes to fit a signed 64-bit number.

**`Interval.parse` accepts these texts and no others** (`parse_grammar`), and gives what they denote.
Two units begin with the same letter, `m` and `ms`, and no unit begins with a digit: so a text has
one count and one unit at most.
-/

namespace FrameSource.Interval

/-- The units of time, with their milliseconds. -/
def units : List (List Char × Nat) :=
  [(['m', 's'], 1), (['T'], 1), (['s'], 1000), (['m'], 60000), (['h'], 3600000), (['d'], 86400000)]

/-- A count with its unit, and the interval that it comes to. -/
inductive Counts : List Char → Interval → Prop
  | mk {digits unit : List Char} {millis : Nat} (nonempty : digits ≠ [])
      (ascii : ∀ c ∈ digits, Text.isDigit c = true) (known : (unit, millis) ∈ units)
      (count_le : (Text.natOfDigits digits : Int) ≤ Text.int64Max)
      (millis_le : (Text.natOfDigits digits * millis : Int) ≤ Text.int64Max) :
    Counts (digits ++ unit) (ofMillis (Text.natOfDigits digits * millis))

/-- A text that holds a count with its unit and, apart from blanks around it, nothing else. -/
def Denotes (input : String) (d : Interval) : Prop :=
  ∃ b₁ cs b₂, input.toList = b₁ ++ cs ++ b₂ ∧ Text.allBlank b₁ = true ∧ Text.allBlank b₂ = true ∧
    Counts cs d

variable {cs unit digits : List Char} {d : Interval} {input : String} {e : TimeError}

/-! ## A count with its unit -/

theorem unitMillis?_eq_some_iff {millis : Nat} :
    unitMillis? unit = some millis ↔ (unit, millis) ∈ units := by
  simp only [unitMillis?, units, List.mem_cons, Prod.mk.injEq, List.not_mem_nil, or_false]
  constructor
  · intro h
    split_ifs at h with hmillis
    · obtain rfl := Option.some.inj h
      rcases hmillis with rfl | rfl <;> simp
    all_goals
      obtain rfl := Option.some.inj h
      simp [*]
  · rintro (⟨rfl, rfl⟩ | ⟨rfl, rfl⟩ | ⟨rfl, rfl⟩ | ⟨rfl, rfl⟩ | ⟨rfl, rfl⟩ | ⟨rfl, rfl⟩) <;> rfl

/-- No unit has a digit or a blank in it. -/
theorem unit_chars {millis : Nat} (h : (unit, millis) ∈ units) :
    ∀ c ∈ unit, Text.isDigit c = false ∧ Text.isBlank c = false := by
  have hall : (units.all fun u => u.1.all fun c => !Text.isDigit c && !Text.isBlank c) = true := rfl
  simp only [List.all_eq_true, Bool.and_eq_true, Bool.not_eq_true'] at hall
  exact hall (unit, millis) h

/-- Where digits end and the unit begins: at the first character that is no digit. -/
theorem takeWhile_digits (hdigits : ∀ c ∈ digits, Text.isDigit c = true)
    (hunit : ∀ c ∈ unit, Text.isDigit c = false) :
    (digits ++ unit).takeWhile Text.isDigit = digits := by
  have hnone : unit.takeWhile Text.isDigit = [] := by
    cases unit with
    | nil => rfl
    | cons c unit => simp [hunit c]
  rw [List.takeWhile_append_of_pos hdigits, hnone, List.append_nil]

theorem dropWhile_digits (hdigits : ∀ c ∈ digits, Text.isDigit c = true)
    (hunit : ∀ c ∈ unit, Text.isDigit c = false) :
    (digits ++ unit).dropWhile Text.isDigit = unit := by
  have hall : unit.dropWhile Text.isDigit = unit := by
    cases unit with
    | nil => rfl
    | cons c unit => simp [hunit c]
  rw [List.dropWhile_append_of_pos hdigits, hall]

/-- A natural fits the machine's word if it is not above the greatest one. -/
theorem inInt64_natCast (n : Nat) : Text.inInt64 n = true ↔ (n : Int) ≤ Text.int64Max := by
  have hmin : Text.int64Min ≤ n := Int.le_trans (by decide) (Int.natCast_nonneg n)
  simp [Text.inInt64, hmin]

/-- The reader reads a count with its unit, and nothing else. -/
theorem readExact?_eq_some_iff : readExact? cs = some d ↔ Counts cs d := by
  constructor
  · intro h
    obtain ⟨count, hcount, h⟩ := Option.bind_eq_some_iff.mp h
    obtain ⟨millis, hmillis, h⟩ := Option.bind_eq_some_iff.mp h
    obtain ⟨nonempty, ascii, rfl⟩ := Text.readNat?_eq_some_iff.mp hcount
    split at h
    · next hfits =>
      obtain rfl := Option.some.inj h
      have hcounts := Counts.mk nonempty ascii (unitMillis?_eq_some_iff.mp hmillis)
        ((inInt64_natCast _).mp hfits.1) ((inInt64_natCast _).mp (by exact_mod_cast hfits.2))
      rwa [List.takeWhile_append_dropWhile] at hcounts
    · cases h
  · rintro ⟨nonempty, ascii, known, count_le, millis_le⟩
    rename_i digits unit millis
    have hplain : ∀ c ∈ unit, Text.isDigit c = false := fun c hc => (unit_chars known c hc).1
    have hcount : Text.readNat? digits = some (Text.natOfDigits digits) :=
      Text.readNat?_eq_some_iff.mpr ⟨nonempty, ascii, rfl⟩
    have hfits : Text.inInt64 (Text.natOfDigits digits) = true ∧
        Text.inInt64 (Text.natOfDigits digits * millis) = true :=
      ⟨(inInt64_natCast _).mpr count_le, by exact_mod_cast (inInt64_natCast _).mpr millis_le⟩
    simp only [readExact?, takeWhile_digits ascii hplain, dropWhile_digits ascii hplain, hcount,
      unitMillis?_eq_some_iff.mpr known, Option.bind_eq_bind, Option.bind_some, hfits, and_self,
      if_true]

/-! ## Among blanks -/

/-- A count and its unit have no blanks, so that trimming an interval leaves them as they are. -/
theorem Counts.noBlank (h : Counts cs d) : cs ≠ [] ∧ ∀ c ∈ cs, Text.isBlank c = false := by
  obtain ⟨nonempty, ascii, known⟩ := h
  refine ⟨List.append_ne_nil_of_left_ne_nil nonempty _, ?_⟩
  rw [List.forall_mem_append]
  exact ⟨fun c hc => Text.isBlank_of_isDigit (ascii c hc), fun c hc => (unit_chars known c hc).2⟩

/-- The blanks around a count with its unit are those that trimming takes away. -/
theorem denotes_iff : Denotes input d ↔ Counts (Text.trim input.toList) d := by
  constructor
  · rintro ⟨b₁, cs, b₂, hinput, h₁, h₂, hcounts⟩
    obtain ⟨hne, hnone⟩ := hcounts.noBlank
    rwa [hinput, Text.trim_append h₁ h₂ hne hnone]
  · intro hcounts
    obtain ⟨b₁, b₂, h₁, h₂, hinput⟩ := Text.exists_eq_append_trim input.toList
    exact ⟨b₁, _, b₂, hinput, h₁, h₂, hcounts⟩

/-- Exactly the texts that denote an interval are parsed, and to the one that they denote. -/
theorem parse_eq_ok_iff : parse input = .ok d ↔ Denotes input d := by
  rw [denotes_iff, ← readExact?_eq_some_iff, parse]
  cases readExact? (Text.trim input.toList) <;> simp

/-- All others are refused with the text as it was given, blanks included. -/
theorem parse_eq_error_iff :
    parse input = .error e ↔ (∀ d, ¬ Denotes input d) ∧ e = .invalidInterval input := by
  simp only [denotes_iff, ← readExact?_eq_some_iff, parse]
  cases readExact? (Text.trim input.toList) with
  | none => simp [eq_comm]
  | some d => simp

/-- **The grammar of intervals.** A text is read as an interval exactly if it denotes that one; every
other text is refused, and the refusal shows it as it was given, with its blanks. -/
theorem parse_grammar (input : String) :
    (∀ d, parse input = .ok d ↔ Denotes input d) ∧
      ∀ e, parse input = .error e ↔
        (∀ d, ¬ Denotes input d) ∧ e = .invalidInterval input :=
  ⟨fun _ => parse_eq_ok_iff, fun _ => parse_eq_error_iff⟩

/-- The greatest count of milliseconds, and one more. -/
example : parse " 009223372036854775807T\n" = .ok (ofMillis 9223372036854775807) ∧
    parse "9223372036854775808T" = .error (.invalidInterval "9223372036854775808T") := by
  decide +kernel

end FrameSource.Interval
