import FrameSource.Proofs.Json.Held
import FrameSource.Proofs.Result.Loading
import FrameSource.Proofs.Time.Renderings

/-!
# Reading result documents

What a document is, as a set of rules beside the reader. An item that is not null fits the wire type
of its column or does not (`Json.Value.Fits`), and one that fits stands for one cell
(`Cell.Reads`): integers stay what they are, numbers are rounded to the nearest double, and once more
in a column of singles.

**The reader follows the rules** (`MemoryCursor.ofDocument_readings`). It succeeds exactly if every
row has an item for each column that is null or fits, and then serves the cells that the items stand
for. Otherwise it names the first row that is wrong, and there the width, or if that is right the
leftmost item that does not fit (`Column.FirstFault`).
-/

namespace FrameSource

/-- An item that may stand in a column of a wire type. In a column of a type that is not standard
everything may. -/
structure Json.Value.Fits (wireType : String) (item : Json.Value) : Prop where
  bool : wireType = "BOOL" → ∃ b, item = .bool b
  int16 : wireType = "INT2" → ∃ n : ℤ, item = .number (.int n) ∧ -32768 ≤ n ∧ n ≤ 32767
  float : wireType = "FLOAT4" ∨ wireType = "FLOAT8" → ∃ n, item = .number n
  timestamp : wireType = "TIMESTAMP" →
    (∃ s t, item = .string s ∧ Rfc3339.read s.toList = .ok t) ∨
      ∃ n : ℤ, item = .number (.int n) ∧ Instant.firstMicros ≤ n ∧ n ≤ Instant.lastMicros

/-- A number as a double: the nearest one to an integer, and a double itself. -/
def Json.Number.IsDouble : Json.Number → Double → Prop
  | .int n, x => x.IsNearest n ∧ x.isNegative = decide (n < 0)
  | .double y, x => x = y
  | .single _, _ => False

/-- The cell that an item stands for in a column of a wire type; null stands for database null. -/
inductive Cell.Reads (wireType : String) : Json.Value → Option Cell → Prop where
  | null : Reads wireType .null none
  | bool (htype : wireType = "BOOL") (b : Bool) : Reads wireType (.bool b) (some (.bool b))
  | int16 (htype : wireType = "INT2") {n : ℤ} {k : Int16} (hsame : k.toInt = n) :
      Reads wireType (.number (.int n)) (some (.int16 k))
  | float32 (htype : wireType = "FLOAT4") {n : Json.Number} {x : Double} {y : Single}
      (hdouble : n.IsDouble x) (hsingle : x.Narrows y) :
      Reads wireType (.number n) (some (.float32 y))
  | float64 (htype : wireType = "FLOAT8") {n : Json.Number} {x : Double} (hdouble : n.IsDouble x) :
      Reads wireType (.number n) (some (.float64 x))
  | written (htype : wireType = "TIMESTAMP") {s : String} {t : ZonedInstant}
      (hread : Rfc3339.read s.toList = .ok t) : Reads wireType (.string s) (some (.timestamp t))
  | micros (htype : wireType = "TIMESTAMP") {n : ℤ} {t : Instant} (hvalid : t.isValid = true)
      (hnanos : t.nanos < 1000000000) (hsame : t.seconds * 1000000000 + t.nanos = n * 1000) :
      Reads wireType (.number (.int n)) (some (.timestamp t.utc))
  | text (hother : wireType ∉ standardTypes) (s : String) :
      Reads wireType (.string s) (some (.text s))
  | compact (hother : wireType ∉ standardTypes) {item : Json.Value} (hnull : item ≠ .null)
      (hstring : ∀ s, item ≠ .string s) : Reads wireType item (some (.text item.compact))

/-- What is given as the reason when an item does not fit: the fault of a text in a column of
timestamps, and nothing in any other case. -/
def Json.Value.Blames (wireType : String) (item : Json.Value) (reason : Option Rfc3339.Fault) :
    Prop :=
  ∀ fault, reason = some fault ↔
    wireType = "TIMESTAMP" ∧ ∃ s, item = .string s ∧ Rfc3339.read s.toList = .error fault

/-- An item that can be read in a column. -/
def Column.Takes (column : Column) (item : Json.Value) : Prop :=
  item = .null ∨ item.Fits column.wireType

/-- A row that can be read: an item for each column, which the column takes. -/
structure Column.TakesRow (columns : List Column) (vs : List Json.Value) : Prop where
  width : vs.length = columns.length
  items : ∀ p ∈ columns.zip vs, p.1.Takes p.2

/-- What is wrong with a row, counted as number `row`. A wrong width comes before everything else,
then the leftmost item that its column does not take. -/
inductive Column.RowFaulty (columns : List Column) (row : ℕ) (vs : List Json.Value) :
    RowFault → Prop where
  | width (hwidth : vs.length ≠ columns.length) :
      RowFaulty columns row vs (.documentWidth row vs.length columns.length)
  | cell (hwidth : vs.length = columns.length) {left right : List (Column × Json.Value)}
      {column : Column} {item : Json.Value} {reason : Option Rfc3339.Fault}
      (hsplit : columns.zip vs = left ++ (column, item) :: right)
      (hleft : ∀ p ∈ left, p.1.Takes p.2) (hitem : ¬ column.Takes item)
      (hreason : item.Blames column.wireType reason) :
      RowFaulty columns row vs (.documentCell row column.wireType item.compact reason)

/-- What is wrong with the first of some rows that cannot be read, counted from number `row` on. -/
def Column.FirstFault (columns : List Column) (row : ℕ) (rows : List (List Json.Value))
    (fault : RowFault) : Prop :=
  ∃ before vs after, rows = before ++ vs :: after ∧ (∀ ws ∈ before, TakesRow columns ws) ∧
    RowFaulty columns (row + before.length) vs fault

/-- The cells that the items of a row stand for. -/
def Column.ReadsRow (columns : List Column) (vs : List Json.Value) (cells : List (Option Cell)) :
    Prop :=
  List.Forall₂ (fun (p : Column × Json.Value) cell? => Cell.Reads p.1.wireType p.2 cell?)
    (columns.zip vs) cells

namespace Cell

/-! ## One item -/

/-- How an item may be read: as the cell that it stands for if it may stand there, and otherwise not
at all. -/
inductive Reading (wireType : String) (item : Json.Value) :
    Except (Option Rfc3339.Fault) (Option Cell) → Prop where
  | ok {cell? : Option Cell} (hfits : item = .null ∨ item.Fits wireType)
      (hreads : Reads wireType item cell?) : Reading wireType item (.ok cell?)
  | error {reason : Option Rfc3339.Fault} (hfits : ¬ (item = .null ∨ item.Fits wireType))
      (hblames : item.Blames wireType reason) : Reading wireType item (.error reason)

/-- An item that is refused without a reason is not a text in a column of timestamps. -/
theorem Reading.refused {wireType : String} {item : Json.Value} (hnull : item ≠ .null)
    (hfits : ¬ item.Fits wireType) (hother : wireType = "TIMESTAMP" → ∀ s, item ≠ .string s) :
    Reading wireType item (.error none) := by
  refine .error (not_or.mpr ⟨hnull, hfits⟩) ?_
  intro fault
  refine iff_of_false nofun ?_
  rintro ⟨htype, s, hs, _⟩
  exact hother htype s hs

theorem int16?_eq_some {n : ℤ} {k : Int16} (h : int16? n = some k) :
    k.toInt = n ∧ -32768 ≤ n ∧ n ≤ 32767 := by
  unfold int16? at h
  split at h
  · next hrange =>
    obtain rfl := Option.some.inj h
    exact ⟨Int16.toInt_ofInt_of_le hrange.1 (by omega), hrange⟩
  · cases h

theorem int16?_eq_none {n : ℤ} (h : int16? n = none) : ¬ (-32768 ≤ n ∧ n ≤ 32767) := by
  unfold int16? at h
  split at h
  · cases h
  · assumption

/-- Integers become doubles by rounding once, and doubles stay what they are. -/
theorem isDouble_doubleOfNumber {n : Json.Number} (h : n.IsHeld) :
    (doubleOfNumber n).InFormat ∧ n.IsDouble (doubleOfNumber n) := by
  cases n with
  | int n =>
    have hlt : n.natAbs < 2 ^ 128 := by
      have hlow := h.1
      have hhigh := h.2
      omega
    have hnear := Floating.isNearest_ofInt hlt
    exact ⟨hnear.inFormat, hnear, Floating.isNegative_roundRatio _ _ _ _⟩
  | double x => exact ⟨h, rfl⟩
  | single x => cases h

section

variable {item : Json.Value}

/-- For each type, the cell that is read of an item is told by the relation, or there is none and
the relation gives the reason. `null` is handled once for all types. -/
theorem reading_bool (hnull : item ≠ .null) : Reading "BOOL" item (ofJson "BOOL" item) := by
  have hrefused (h : ∀ b, item ≠ .bool b) : Reading "BOOL" item (.error none) := by
    refine .refused hnull ?_ nofun
    intro hfits
    obtain ⟨b, hb⟩ := hfits.bool rfl
    exact h b hb
  cases item with
  | null => exact absurd rfl hnull
  | bool b => exact .ok (Or.inr ⟨fun _ => ⟨b, rfl⟩, nofun, nofun, nofun⟩) (.bool rfl b)
  | number n => exact hrefused nofun
  | string s => exact hrefused nofun
  | array items => exact hrefused nofun
  | object members => exact hrefused nofun

/-- The integers alone are tried for their range; a double is no integer here, even if its value is
one. -/
theorem reading_int2 (hnull : item ≠ .null) : Reading "INT2" item (ofJson "INT2" item) := by
  have hrefused (h : ∀ n : ℤ, item = .number (.int n) → ¬ (-32768 ≤ n ∧ n ≤ 32767)) :
      Reading "INT2" item (.error none) := by
    refine .refused hnull ?_ nofun
    intro hfits
    obtain ⟨n, hn, hrange⟩ := hfits.int16 rfl
    exact h n hn hrange
  cases item with
  | null => exact absurd rfl hnull
  | bool b => exact hrefused nofun
  | number n =>
    cases n with
    | int n =>
      cases hint : int16? n with
      | none =>
        have hread : ofJson "INT2" (.number (.int n)) = .error none := by
          simp only [ofJson, String.reduceEq, if_true, if_false, hint]
        rw [hread]
        refine hrefused ?_
        rintro _ ⟨⟩
        exact int16?_eq_none hint
      | some k =>
        obtain ⟨hsame, hrange⟩ := int16?_eq_some hint
        have hread : ofJson "INT2" (.number (.int n)) = .ok (some (.int16 k)) := by
          simp only [ofJson, String.reduceEq, if_true, if_false, hint]
        rw [hread]
        exact .ok (Or.inr ⟨nofun, fun _ => ⟨n, rfl, hrange⟩, nofun, nofun⟩) (.int16 rfl hsame)
    | double x => exact hrefused nofun
    | single x => exact hrefused nofun
  | string s => exact hrefused nofun
  | array items => exact hrefused nofun
  | object members => exact hrefused nofun

/-- In a column of floating-point numbers, every number is taken and nothing else. -/
theorem reading_float {wireType : String} (htype : wireType = "FLOAT4" ∨ wireType = "FLOAT8")
    (hnumber : ∀ n, item = .number n →
      ∃ cell, ofJson wireType item = .ok (some cell) ∧ Reads wireType item (some cell))
    (hrefused : (∀ n, item ≠ .number n) → ofJson wireType item = .error none)
    (hnull : item ≠ .null) : Reading wireType item (ofJson wireType item) := by
  have hother (other : String) (h : other ∉ ["FLOAT4", "FLOAT8"]) : wireType ≠ other := by
    rintro rfl
    exact h (by simpa using htype)
  by_cases h : ∃ n, item = .number n
  · obtain ⟨n, hn⟩ := h
    obtain ⟨cell, hcell, hreads⟩ := hnumber n hn
    rw [hcell]
    refine .ok (Or.inr ⟨?_, ?_, fun _ => ⟨n, hn⟩, ?_⟩) hreads
    · exact fun h => absurd h (hother "BOOL" (by decide))
    · exact fun h => absurd h (hother "INT2" (by decide))
    · exact fun h => absurd h (hother "TIMESTAMP" (by decide))
  · rw [hrefused (not_exists.mp h)]
    refine .refused hnull (fun hfits => h (hfits.float htype)) ?_
    exact fun h => absurd h (hother "TIMESTAMP" (by decide))

/-- A count of microseconds in the range of the calendar is read as the instant that it counts to,
in UTC. -/
theorem ofJson_micros {n : ℤ} (h : Instant.firstMicros ≤ n ∧ n ≤ Instant.lastMicros) :
    ofJson "TIMESTAMP" (.number (.int n)) = .ok (some (.timestamp (Instant.atMicros n).utc)) := by
  obtain ⟨_, _, hmicros⟩ | ⟨hrange, _⟩ := Instant.ofMicros?_cases n
  · simp only [ofJson, String.reduceEq, if_true, if_false, Instant.inInt64_of_micros h, hmicros]
  · exact absurd h hrange

theorem ofJson_rendering {s : String} {t : ZonedInstant} (h : Rfc3339.read s.toList = .ok t) :
    ofJson "TIMESTAMP" (.string s) = .ok (some (.timestamp t)) := by
  simp only [ofJson, String.reduceEq, if_true, if_false, h]

/-- An item is refused as a timestamp if it is neither a text nor a count in the range. -/
theorem refused_timestamp (hnull : item ≠ .null) (hstring : ∀ s, item ≠ .string s)
    (hnumber : ∀ n : ℤ, item = .number (.int n) →
      ¬ (Instant.firstMicros ≤ n ∧ n ≤ Instant.lastMicros)) :
    Reading "TIMESTAMP" item (.error none) := by
  refine .refused hnull ?_ fun _ => hstring
  intro hfits
  obtain ⟨s, _, hs, _⟩ | ⟨n, hn, hrange⟩ := hfits.timestamp rfl
  · exact hstring s hs
  · exact hnumber n hn hrange

theorem reading_micros (n : ℤ) :
    Reading "TIMESTAMP" (.number (.int n)) (ofJson "TIMESTAMP" (.number (.int n))) := by
  obtain ⟨hfirst, hlast, _⟩ | ⟨hrange, hmicros⟩ := Instant.ofMicros?_cases n
  · obtain ⟨hnanos, hsame⟩ := Instant.atMicros_spec n
    have hvalid := Instant.isValid_atMicros.mpr ⟨hfirst, hlast⟩
    rw [ofJson_micros ⟨hfirst, hlast⟩]
    exact .ok (Or.inr ⟨nofun, nofun, nofun, fun _ => Or.inr ⟨n, rfl, hfirst, hlast⟩⟩)
      (.micros rfl hvalid hnanos hsame)
  · have hread : ofJson "TIMESTAMP" (.number (.int n)) = .error none := by
      simp only [ofJson, String.reduceEq, if_true, if_false, hmicros, ite_self]
    rw [hread]
    refine refused_timestamp nofun nofun ?_
    rintro _ ⟨⟩
    exact hrange

/-- A text is the one item that is refused with a reason: what the reader of timestamps found wrong
with it. -/
theorem reading_rendering (s : String) :
    Reading "TIMESTAMP" (.string s) (ofJson "TIMESTAMP" (.string s)) := by
  cases hread : Rfc3339.read s.toList with
  | ok t =>
    rw [ofJson_rendering hread]
    exact .ok (Or.inr ⟨nofun, nofun, nofun, fun _ => Or.inl ⟨s, t, rfl, hread⟩⟩)
      (.written rfl hread)
  | error fault =>
    have htext : ofJson "TIMESTAMP" (.string s) = .error (some fault) := by
      simp only [ofJson, String.reduceEq, if_true, if_false, hread]
    rw [htext]
    refine .error ?_ ?_
    · rintro (hs | hfits)
      · cases hs
      · obtain ⟨_, t, hs, ht⟩ | ⟨_, hs, _⟩ := hfits.timestamp rfl
        · cases hs
          cases hread.symm.trans ht
        · cases hs
    · intro fault'
      constructor
      · rintro ⟨⟩
        exact ⟨rfl, s, rfl, hread⟩
      · rintro ⟨_, _, ⟨⟩, hread'⟩
        rw [Except.error.inj (hread.symm.trans hread')]

theorem reading_timestamp (hnull : item ≠ .null) :
    Reading "TIMESTAMP" item (ofJson "TIMESTAMP" item) := by
  have hrefused := refused_timestamp hnull
  cases item with
  | null => exact absurd rfl hnull
  | bool b => exact hrefused nofun nofun
  | number n =>
    cases n with
    | int n => exact reading_micros n
    | double x => exact hrefused nofun nofun
    | single x => exact hrefused nofun nofun
  | string s => exact reading_rendering s
  | array items => exact hrefused nofun nofun
  | object members => exact hrefused nofun nofun

/-- In a column of a type that is not standard, everything is taken. -/
theorem reading_other {wireType : String} (hother : wireType ∉ standardTypes)
    (hnull : item ≠ .null) : Reading wireType item (ofJson wireType item) := by
  have hfits : item.Fits wireType := by
    refine ⟨?_, ?_, ?_, ?_⟩
    · rintro rfl
      exact absurd (by decide) hother
    · rintro rfl
      exact absurd (by decide) hother
    · rintro (rfl | rfl)
      · exact absurd (by decide) hother
      · exact absurd (by decide) hother
    · rintro rfl
      exact absurd (by decide) hother
  have hbranches := hother
  simp only [standardTypes, List.mem_cons, List.not_mem_nil, or_false, not_or] at hbranches
  obtain ⟨hbool, hint2, hfloat4, hfloat8, htimestamp⟩ := hbranches
  have hcompact (hstring : ∀ s, item ≠ .string s) :
      Reading wireType item (.ok (some (.text item.compact))) :=
    .ok (Or.inr hfits) (.compact hother hnull hstring)
  cases item <;>
    simp only [ofJson, hbool, hint2, hfloat4, hfloat8, htimestamp, if_false]
  case null => exact absurd rfl hnull
  case bool => exact hcompact (by simp)
  case number => exact hcompact (by simp)
  case string s => exact .ok (Or.inr hfits) (.text hother s)
  case array => exact hcompact (by simp)
  case object => exact hcompact (by simp)

/-- **An item is read as the cell that it stands for**, or refused if it may not stand there. -/
theorem reading_ofJson (wireType : String) (hheld : ∀ n, item = .number n → n.IsHeld) :
    Reading wireType item (ofJson wireType item) := by
  by_cases hnull : item = .null
  · subst hnull
    exact .ok (Or.inl rfl) .null
  by_cases hstandard : wireType ∈ standardTypes
  · simp only [standardTypes, List.mem_cons, List.not_mem_nil, or_false] at hstandard
    obtain rfl | rfl | rfl | rfl | rfl := hstandard
    · exact reading_bool hnull
    · exact reading_int2 hnull
    · refine reading_float (Or.inl rfl) ?_ ?_ hnull
      · rintro n rfl
        obtain ⟨hformat, hdouble⟩ := isDouble_doubleOfNumber (hheld n rfl)
        exact ⟨_, rfl,
          .float32 rfl hdouble (Floating.narrows_convert (by decide) (by decide) hformat)⟩
      · intro h
        cases item <;> first | rfl | exact absurd rfl hnull | exact absurd rfl (h _)
    · refine reading_float (Or.inr rfl) ?_ ?_ hnull
      · rintro n rfl
        exact ⟨_, rfl, .float64 rfl (isDouble_doubleOfNumber (hheld n rfl)).2⟩
      · intro h
        cases item <;> first | rfl | exact absurd rfl hnull | exact absurd rfl (h _)
    · exact reading_timestamp hnull
  · exact reading_other hstandard hnull

end

end Cell

namespace Column

variable {column : Column} {columns : List Column} {row : ℕ} {item : Json.Value}
  {vs : List Json.Value} {fault : RowFault}

/-! ## One row -/

theorem TakesRow.nil : TakesRow [] [] where
  width := rfl
  items := nofun

/-- A row is taken item by item, so that a fault in it can be looked for from the left. -/
theorem TakesRow.cons (hitem : column.Takes item) (h : TakesRow columns vs) :
    TakesRow (column :: columns) (item :: vs) where
  width := congrArg Nat.succ h.width
  items := List.forall_mem_cons.mpr ⟨hitem, h.items⟩

/-- A row is faulty for what is wrong after items that are taken. -/
theorem RowFaulty.cons (hitem : column.Takes item) (hwidth : vs.length = columns.length)
    (h : RowFaulty columns row vs fault) :
    RowFaulty (column :: columns) row (item :: vs) fault := by
  cases h with
  | width hne => exact absurd hwidth hne
  | @cell _ left _ _ _ _ hsplit hleft hbad hreason =>
    have hlength : (item :: vs).length = (column :: columns).length := congrArg Nat.succ hwidth
    have hleft' : ∀ p ∈ (column, item) :: left, p.1.Takes p.2 :=
      List.forall_mem_cons.mpr ⟨hitem, hleft⟩
    have hsplit' : (column :: columns).zip (item :: vs) = (column, item) :: left ++ _ :=
      congrArg ((column, item) :: ·) hsplit
    exact .cell hlength hsplit' hleft' hbad hreason

/-- A faulty row cannot be read. -/
theorem RowFaulty.not_takesRow (h : RowFaulty columns row vs fault) : ¬ TakesRow columns vs := by
  intro htakes
  cases h with
  | width hne => exact hne htakes.width
  | cell _ hsplit _ hbad _ =>
    exact hbad (htakes.items _ (hsplit ▸ List.mem_append_right _ List.mem_cons_self))

/-- How a row may be read: as the cells of its items if the columns take them, and otherwise the
error says what is wrong with it. -/
inductive RowReading (columns : List Column) (row : ℕ) (vs : List Json.Value) :
    Except CursorError (List (Option Cell)) → Prop where
  | ok {cells : List (Option Cell)} (htakes : TakesRow columns vs)
      (hreads : ReadsRow columns vs cells) : RowReading columns row vs (.ok cells)
  | error {fault : RowFault} (hfault : RowFaulty columns row vs fault) :
      RowReading columns row vs (.error (.invalidRow fault))

/-- The cells of a row, or the fault of its first item that is not taken. The width has been checked
by then. -/
theorem rowReading_documentCells (hwidth : vs.length = columns.length)
    (hheld : ∀ n, Json.Value.number n ∈ vs → n.IsHeld) :
    RowReading columns row vs (MemoryCursor.documentCells row columns vs) := by
  induction columns generalizing vs with
  | nil =>
    obtain rfl := List.eq_nil_of_length_eq_zero hwidth
    exact .ok .nil .nil
  | cons column columns ih =>
    cases vs with
    | nil => cases hwidth
    | cons item vs =>
      have hitem : Cell.Reading column.wireType item (Cell.ofJson column.wireType item) :=
        Cell.reading_ofJson column.wireType fun n hn => hheld n (hn ▸ List.mem_cons_self)
      have hvs := ih (Nat.succ.inj hwidth) fun n hn => hheld n (List.mem_cons_of_mem item hn)
      rw [MemoryCursor.documentCells]
      -- An item that is refused ends the row before the rest of it is looked at.
      cases hread : Cell.ofJson column.wireType item with
      | error reason =>
        rw [hread] at hitem
        cases hitem with
        | error hfits hblames =>
          exact .error
            (.cell hwidth (List.nil_append _).symm (List.forall_mem_nil _) hfits hblames)
      | ok cell? =>
        rw [hread] at hitem
        cases hitem with
        | ok hfits hreads =>
          cases hrest : MemoryCursor.documentCells row columns vs with
          | ok cells =>
            rw [hrest] at hvs
            cases hvs with
            | ok htakes hall => exact .ok (htakes.cons hfits) (.cons hreads hall)
          | error e =>
            rw [hrest] at hvs
            cases hvs with
            | error hfault => exact .error (hfault.cons hfits (Nat.succ.inj hwidth))

/-- **A row is read as the cells of its items**, or what is wrong with it is reported. -/
theorem rowReading_documentRow (hheld : ∀ n, Json.Value.number n ∈ vs → n.IsHeld) :
    RowReading columns row vs (MemoryCursor.documentRow columns row vs) := by
  rw [MemoryCursor.documentRow]
  split
  · next hwidth => exact rowReading_documentCells hwidth hheld
  · next hwidth => exact .error (.width hwidth)

/-! ## All rows -/

variable {rows : List (List Json.Value)}

/-- Rows in front that are taken only move the number of the row that is at fault. -/
theorem FirstFault.cons (hvs : TakesRow columns vs) (h : FirstFault columns (row + 1) rows fault) :
    FirstFault columns row (vs :: rows) fault := by
  obtain ⟨before, ws, after, rfl, hbefore, hfault⟩ := h
  refine ⟨vs :: before, ws, after, rfl, List.forall_mem_cons.mpr ⟨hvs, hbefore⟩, ?_⟩
  rwa [List.length_cons, Nat.add_comm before.length 1, ← Nat.add_assoc]

/-- Where a row is at fault, not all rows can be read. -/
theorem FirstFault.not_takes (h : FirstFault columns row rows fault) :
    ¬ ∀ vs ∈ rows, TakesRow columns vs := by
  intro htakes
  obtain ⟨before, vs, after, rfl, _, hfaulty⟩ := h
  exact hfaulty.not_takesRow (htakes vs (List.mem_append_right _ List.mem_cons_self))

/-- How rows may be read: as their cells if all of them can be, and otherwise the error says what is
wrong with the first one that cannot. -/
inductive RowsReading (columns : List Column) (row : ℕ) (rows : List (List Json.Value)) :
    Except CursorError (List (List (Option Cell))) → Prop where
  | ok {cells : List (List (Option Cell))} (htakes : ∀ vs ∈ rows, TakesRow columns vs)
      (hreads : List.Forall₂ (ReadsRow columns) rows cells) :
      RowsReading columns row rows (.ok cells)
  | error {fault : RowFault} (hfault : FirstFault columns row rows fault) :
      RowsReading columns row rows (.error (.invalidRow fault))

/-- The rows of a document, or the first fault in them, in the order of reading. -/
theorem rowsReading_documentRows
    (hheld : ∀ vs ∈ rows, ∀ n, Json.Value.number n ∈ vs → n.IsHeld) :
    RowsReading columns row rows (MemoryCursor.documentRows columns row rows) := by
  induction rows generalizing row with
  | nil => exact .ok nofun .nil
  | cons vs rows ih =>
    obtain ⟨hvs, hrows⟩ := List.forall_mem_cons.mp hheld
    have hfirst : RowReading columns row vs (MemoryCursor.documentRow columns row vs) :=
      rowReading_documentRow hvs
    have hrest := @ih (row + 1) hrows
    rw [MemoryCursor.documentRows]
    cases hread : MemoryCursor.documentRow columns row vs with
    | error e =>
      rw [hread] at hfirst
      cases hfirst with
      | error hfault => exact .error ⟨[], vs, rows, rfl, nofun, hfault⟩
    | ok cells =>
      rw [hread] at hfirst
      cases hfirst with
      | ok htakes hreads =>
        cases hmore : MemoryCursor.documentRows columns (row + 1) rows with
        | ok more =>
          rw [hmore] at hrest
          cases hrest with
          | ok hall hcells =>
            exact .ok (List.forall_mem_cons.mpr ⟨htakes, hall⟩) (.cons hreads hcells)
        | error e =>
          rw [hmore] at hrest
          cases hrest with
          | error hfault => exact .error (hfault.cons htakes)

end Column

/-! ## Documents -/

namespace ResultDocument

/-- How a document may be loaded: as its columns with the cells of its rows if all of them can be read,
and otherwise the error is that of the first row that cannot. -/
inductive Reading (d : ResultDocument) : Except CursorError MemoryCursor → Prop where
  | ok {rows : List (List (Option Cell))} (takes : ∀ vs ∈ d.rows, Column.TakesRow d.columns vs)
      (reads : List.Forall₂ (Column.ReadsRow d.columns) d.rows rows) :
      Reading d (.ok (.ofRows d.columns rows))
  | error {fault : RowFault} (first : Column.FirstFault d.columns 0 d.rows fault) :
      Reading d (.error (.invalidRow fault))

/-- A document whose numbers are such as a reader can hold is loaded by the rules. -/
theorem reading_ofDocument {d : ResultDocument} (hheld : d.IsHeld) :
    d.Reading (MemoryCursor.ofDocument d) := by
  have hreading : Column.RowsReading d.columns 0 d.rows
      (MemoryCursor.documentRows d.columns 0 d.rows) :=
    Column.rowsReading_documentRows hheld
  unfold MemoryCursor.ofDocument
  cases hrows : MemoryCursor.documentRows d.columns 0 d.rows with
  | ok rows =>
    rw [hrows] at hreading
    cases hreading with
    | ok takes reads => exact .ok takes reads
  | error e =>
    rw [hrows] at hreading
    cases hreading with
    | error hfault => exact .error hfault

/-- **A document that was read from a text is loaded by the rules**, whatever numbers stand in it: the
reader of JSON holds them all. -/
theorem reading_of_parse? {text : String} {d : ResultDocument} (h : parse? text = some d) :
    d.Reading (MemoryCursor.ofDocument d) :=
  reading_ofDocument (isHeld_of_parse? h)

end ResultDocument

namespace MemoryCursor

/-- **The reader follows the rules.** A document is loaded exactly if every row can be read, and the
cursor then serves its columns and, row by row, the cells that its items stand for. Otherwise the
error is that of the first row that cannot be read. An item is an integer if it was written as one. -/
theorem ofDocument_readings {d : ResultDocument} (hheld : d.IsHeld) :
    ((∃ c, ofDocument d = .ok c) ↔ ∀ vs ∈ d.rows, Column.TakesRow d.columns vs) ∧
      (∀ c, ofDocument d = .ok c →
        ∃ rows, c = ofRows d.columns rows ∧
          List.Forall₂ (Column.ReadsRow d.columns) d.rows rows) ∧
      (∀ e, ofDocument d = .error e →
        ∃ fault, e = .invalidRow fault ∧ Column.FirstFault d.columns 0 d.rows fault) ∧
      ∀ (numeral : Json.Numeral) (depth : ℕ) (n : ℤ),
        (Json.Tree.number numeral).value? depth = some (.number (.int n)) ↔ numeral.Spells n := by
  have hnumeral (numeral : Json.Numeral) (depth : ℕ) (n : ℤ) :
      (Json.Tree.number numeral).value? depth = some (.number (.int n)) ↔ numeral.Spells n := by
    rw [← numeral.number?_eq_int_iff, Json.Tree.value?, Option.map_eq_some_iff]
    constructor
    · rintro ⟨k, hk, hn⟩
      rwa [← Json.Value.number.inj hn]
    · exact fun h => ⟨_, h, rfl⟩
  have hreading := ResultDocument.reading_ofDocument hheld
  generalize ofDocument d = loaded at hreading ⊢
  cases hreading with
  | @ok rows takes reads =>
    refine ⟨iff_of_true ⟨_, rfl⟩ takes, ?_, ?_, hnumeral⟩
    · rintro c ⟨⟩
      exact ⟨rows, rfl, reads⟩
    · rintro e ⟨⟩
  | error first =>
    refine ⟨iff_of_false ?_ first.not_takes, ?_, ?_, hnumeral⟩
    · rintro ⟨_, ⟨⟩⟩
    · rintro c ⟨⟩
    · rintro _ ⟨⟩
      exact ⟨_, rfl, first⟩

/-- A document whose second row has an integer that is too great for its column. -/
def overflowing : ResultDocument where
  columns := [⟨"n", "INT2"⟩, ⟨"at", "TIMESTAMP"⟩]
  rows := [[.number (.int (-32768)), .number (.int 1705754096789000)],
    [.number (.int 70000), .string "noon"]]

/-- A number beyond the narrow integers is the first fault of a document, with its row, its type and
the item as it is written. -/
theorem ofDocument_readings_overflowing :
    overflowing.IsHeld ∧
      ofDocument overflowing = .error (.invalidRow (.documentCell 1 "INT2" "70000" none)) ∧
      Column.FirstFault overflowing.columns 0 overflowing.rows
        (.documentCell 1 "INT2" "70000" none) := by
  have hheld : overflowing.IsHeld := by
    intro vs hvs n hn
    simp only [overflowing, List.mem_cons, List.not_mem_nil, or_false] at hvs
    obtain rfl | rfl := hvs
    · simp only [List.mem_cons, Json.Value.number.injEq, List.not_mem_nil, or_false] at hn
      obtain rfl | rfl := hn <;> exact ⟨by decide, by decide⟩
    · simp only [List.mem_cons, Json.Value.number.injEq, reduceCtorEq, List.not_mem_nil,
        or_false] at hn
      obtain rfl := hn
      exact ⟨by decide, by decide⟩
  have herror : ofDocument overflowing =
      .error (.invalidRow (.documentCell 1 "INT2" "70000" none)) := rfl
  obtain ⟨fault, hfault, hfirst⟩ := (ofDocument_readings hheld).2.2.1 _ herror
  obtain rfl := CursorError.invalidRow.inj hfault
  exact ⟨hheld, herror, hfirst⟩

end MemoryCursor

end FrameSource
