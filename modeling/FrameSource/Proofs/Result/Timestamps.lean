import FrameSource.Proofs.Result.Readings

/-!
# Two spellings of a timestamp

A document gives a timestamp as a count of microseconds or as a text at some offset. Whichever it is,
the item stands for the same instant (`Cell.ofJson_micros`, `Cell.ofJson_rendering`), and the offset,
in which the two cells may differ, is not kept by the converter.

**The spelling does not matter** (`decodeMemory_respelled`). In a document that is loaded, any item of
a column of timestamps may be put in either spelling; the document is still loaded, and what it
decodes to is the same.
-/

namespace FrameSource

/-- The document with another item at a place. -/
def ResultDocument.put (d : ResultDocument) (row position : ℕ) (item : Json.Value) :
    ResultDocument :=
  { d with rows := d.rows.modify row fun vs => vs.set position item }

/-! ## One item -/

/-- An item that is read as a timestamp becomes its instant. -/
theorem Json.Value.Becomes.eq_timestamp {wireType : String} {item : Json.Value}
    {v : FrameSource.Value} (h : item.Becomes wireType v) {t : ZonedInstant}
    (hread : Cell.ofJson wireType item = .ok (some (.timestamp t))) : v = .timestamp t.instant := by
  cases h with
  | null => cases hread
  | cell hread' hvalue =>
    obtain rfl := Option.some.inj (Except.ok.inj (hread'.symm.trans hread))
    exact (Option.some.inj hvalue).symm

/-! ## One item of a row -/

theorem zip_set {columns : List Column} {position : ℕ} {column : Column}
    (h : columns[position]? = some column) (vs : List Json.Value) (item : Json.Value) :
    columns.zip (vs.set position item) = (columns.zip vs).set position (column, item) := by
  induction columns generalizing position vs with
  | nil => cases h
  | cons column' columns ih =>
    cases vs with
    | nil => rfl
    | cons v vs =>
      cases position with
      | zero =>
        obtain rfl := Option.some.inj h
        rfl
      | succ position => exact congrArg ((column', v) :: ·) (ih h vs)

/-- A row is still read if an item is replaced by one that is read in its column. -/
theorem Column.Read.set {columns : List Column} {vs : List Json.Value}
    {cells : List (Option Cell)} (h : Read columns vs cells) {position : ℕ} {column : Column}
    (hcolumn : columns[position]? = some column) {item : Json.Value} {cell? : Option Cell}
    (hitem : Cell.ofJson column.wireType item = .ok cell?) :
    Read columns (vs.set position item) (cells.set position cell?) where
  width := by rw [List.length_set, h.width]
  cells := by
    rw [zip_set hcolumn]
    exact forall₂_set h.cells hitem position

/-- A loaded document is still loaded with such an item in place of another. -/
theorem read_put {d : ResultDocument} {rows : List (List (Option Cell))}
    (h : List.Forall₂ (Column.Read d.columns) d.rows rows) {position : ℕ} {column : Column}
    (hcolumn : d.columns[position]? = some column) {item : Json.Value} {cell? : Option Cell}
    (hitem : Cell.ofJson column.wireType item = .ok cell?) (row : ℕ) :
    List.Forall₂ (Column.Read (d.put row position item).columns) (d.put row position item).rows
      (rows.modify row fun cells => cells.set position cell?) :=
  forall₂_modify h (fun _ _ hread => hread) (fun _ _ hread => hread.set hcolumn hitem) row

namespace Decode

/-! ## What the converters see -/

/-- What a kept column reads does not depend on the offset of a timestamp in the row. -/
theorem Kept.ReadsCell.set_timestamp {columns : List Column} {k : Kept}
    (hk : k ∈ kept (slotsOf .standard columns)) {position : ℕ} {name : String}
    (hcolumn : columns[position]? = some ⟨name, "TIMESTAMP"⟩) {t : Instant} {offset : ℤ}
    {cells : List (Option Cell)} {v : Value}
    (h : k.ReadsCell (cells.set position (some (.timestamp ⟨t, offset⟩))) v) (offset' : ℤ) :
    k.ReadsCell (cells.set position (some (.timestamp ⟨t, offset'⟩))) v := by
  obtain ⟨cell?, hcell, hv⟩ := h
  rw [List.getElem?_set] at hcell
  rw [Kept.ReadsCell, List.getElem?_set]
  -- At the place of the timestamp the converter is that of timestamps, which drops the offset.
  split at hcell
  · next hposition =>
    rw [if_pos hposition]
    have hslot := getElem?_of_mem_kept hk
    rw [slotsOf, List.getElem?_map, ← hposition, hcolumn] at hslot
    obtain ⟨_, hfind⟩ := Slot.mk.inj (Option.some.inj hslot)
    have hconverter : k.converter = ⟨⟨"TIMESTAMP", .nullableTime, .nullable⟩, some .timestamp⟩ :=
      Option.some.inj hfind.symm
    rw [Kept.convert, hconverter] at hv
    simp only [Kept.convert, hconverter]
    split at hcell
    · next hlt =>
      obtain rfl := Option.some.inj hcell
      obtain rfl : Value.timestamp t = v := Except.ok.inj hv
      exact ⟨some (.timestamp ⟨t, offset'⟩), if_pos hlt, rfl⟩
    · cases hcell
  · next hposition =>
    rw [if_neg hposition]
    exact ⟨cell?, hcell, hv⟩

/-- The frame is the same if no kept column sees a difference between the rows. -/
theorem decodeMemory_congr_rows (columns : List Column) {rows rows' : List (List (Option Cell))}
    (hfault : firstFault? (.ofRows columns rows) (kept (slotsOf .standard columns)) 0 = none)
    (hfault' : firstFault? (.ofRows columns rows') (kept (slotsOf .standard columns)) 0 = none)
    (hsame : List.Forall₂ (fun cells cells' => ∀ k ∈ kept (slotsOf .standard columns), ∀ v,
      k.ReadsCell cells v → k.ReadsCell cells' v) rows rows') (policy : UnknownColumnPolicy) :
    decodeMemory (.ofRows columns rows) .standard policy =
      decodeMemory (.ofRows columns rows') .standard policy := by
  obtain ⟨column, hplan⟩ | hplan := plan_cases .standard policy columns
  · exact (decodeMemory_of_refused (c := .ofRows columns rows) hplan).trans
      (decodeMemory_of_refused (c := .ofRows columns rows') hplan).symm
  · obtain ⟨f, hf, hrows, hcolumns⟩ := exists_frame (c := .ofRows columns rows) hplan hfault
    have hcolumns' : List.Forall₂ (Kept.Fills Kept.ReadsCell rows')
        (kept (slotsOf .standard columns)) f.columns := by
      refine forall₂_imp_mem hcolumns ?_
      intro k hk column hfills
      refine ⟨hfills.name, hfills.wireType, hfills.fieldType, ?_⟩
      exact forall₂_of_common (fun _ _ _ hcells hv => hcells k hk _ hv) hsame hfills.values
    rw [hf]
    exact (decodeMemory_eq_ok (c := .ofRows columns rows') hplan hfault'
      (hrows.trans hsame.length_eq) hcolumns').symm

/-! ## The document -/

/-- **The spelling of a timestamp does not matter.** In a loaded document, an item of a column of
timestamps is replaced by a count of microseconds, or by a text of that instant on a clock that shows
a year of four digits. Both documents are loaded, both decode to the same, and the value in that place
is the instant. -/
theorem decodeMemory_respelled {d : ResultDocument} {c : MemoryCursor}
    (h : MemoryCursor.ofDocument d = .ok c) {position row : ℕ} {name : String}
    (hcolumn : d.columns[position]? = some ⟨name, "TIMESTAMP"⟩) (hrow : row < d.rows.length)
    {n offset : ℤ} (hyear : 0 ≤ (Instant.atMicros n).yearAt offset ∧
      (Instant.atMicros n).yearAt offset ≤ 9999) {text : String}
    (htext : Rfc3339.Renders (Instant.atMicros n) offset text.toList) :
    ∃ counted written f,
      MemoryCursor.ofDocument (d.put row position (.number (.int n))) = .ok counted ∧
      MemoryCursor.ofDocument (d.put row position (.string text)) = .ok written ∧
      (∀ policy, decodeMemory counted .standard policy = decodeMemory written .standard policy) ∧
      decodeMemory counted .standard .skip = .ok f ∧
      ∃ (i : ℕ) (column : FrameColumn), d.standing[i]? = some (⟨name, "TIMESTAMP"⟩, position) ∧
        f.columns[i]? = some column ∧
        column.values[row]? = some (.timestamp (Instant.atMicros n)) := by
  obtain ⟨rows, hrows, rfl⟩ := MemoryCursor.ofDocument_eq_ok.mp h
  obtain ⟨hnanos, _⟩ := Instant.atMicros_spec n
  have hread := Rfc3339.read_of_renders (Or.inl hnanos) hyear htext
  have hmicros := Instant.micros_of_yearAt (Rfc3339.offset_of_renders htext) hyear
  have hcounted := read_put hrows hcolumn (Cell.ofJson_micros hmicros) row
  have hwritten := read_put hrows hcolumn (Cell.ofJson_rendering hread) row
  -- Both documents are read; the frame of one is told by its readings.
  obtain ⟨f, hyields, hdecode⟩ := exists_frame_yields hcounted
  have hstanding : (⟨name, "TIMESTAMP"⟩, position) ∈ d.standing := by
    have hstandard : "TIMESTAMP" ∈ standardTypes := by decide
    exact List.mem_filter.mpr
      ⟨List.mem_zipIdx_iff_getElem?.mpr hcolumn, decide_eq_true hstandard⟩
  obtain ⟨i, hi⟩ := List.mem_iff_getElem?.mp hstanding
  obtain ⟨column, hframe, _, _, hvalues⟩ := forall₂_getElem? hyields.columns hi
  refine ⟨_, _, f, MemoryCursor.ofDocument_eq_ok.mpr ⟨_, hcounted, rfl⟩,
    MemoryCursor.ofDocument_eq_ok.mpr ⟨_, hwritten, rfl⟩, ?_, hdecode .skip (plan_skip _ _), i,
    column, hi, hframe, ?_⟩
  -- The rows differ in the offset of one timestamp alone, which no kept column sees.
  · have hfault := firstFault?_loaded hcounted
    have hfault' := firstFault?_loaded hwritten
    apply decodeMemory_congr_rows d.columns hfault hfault'
    have hrows : List.Forall₂ (· = ·) rows rows := List.forall₂_same.mpr fun _ _ => rfl
    refine forall₂_modify hrows ?_ ?_ row
    · rintro cells _ rfl k _ v hv
      exact hv
    · rintro cells _ rfl k hk v hv
      exact hv.set_timestamp hk hcolumn offset
  · have hmodified : (d.put row position (.number (.int n))).rows[row]? =
        some (d.rows[row].set position (.number (.int n))) := by
      rw [ResultDocument.put, List.getElem?_modify_eq, List.getElem?_eq_getElem hrow]
      rfl
    obtain ⟨v, hv, item, hitem, hbecomes⟩ := forall₂_getElem? hvalues hmodified
    rw [List.getElem?_set_self'] at hitem
    obtain ⟨_, _, rfl⟩ := Option.map_eq_some_iff.mp hitem
    rw [hv, hbecomes.eq_timestamp (Cell.ofJson_micros hmicros)]
    rfl

/-- A document with a leap day and a column that is skipped. -/
def leapDay : ResultDocument where
  columns := [⟨"id", "UUID"⟩, ⟨"at", "TIMESTAMP"⟩]
  rows := [[.string "3f2a", .null]]

/-- The last microsecond but one before the leap day ends in UTC, when it is the next day to the
east. -/
theorem decodeMemory_respelled_leapDay :
    ∃ c, MemoryCursor.ofDocument leapDay = .ok c ∧ leapDay.columns[1]? = some ⟨"at", "TIMESTAMP"⟩ ∧
      0 < leapDay.rows.length ∧
      (0 ≤ (Instant.atMicros 951868799999998).yearAt 19800 ∧
        (Instant.atMicros 951868799999998).yearAt 19800 ≤ 9999) ∧
      Rfc3339.Renders (Instant.atMicros 951868799999998) 19800
        "2000-03-01t05:29:59.9999980000+05:30".toList ∧
      ∃ counted written f,
        MemoryCursor.ofDocument (leapDay.put 0 1 (.number (.int 951868799999998))) = .ok counted ∧
        MemoryCursor.ofDocument
          (leapDay.put 0 1 (.string "2000-03-01t05:29:59.9999980000+05:30")) = .ok written ∧
        (∀ policy, decodeMemory counted .standard policy =
          decodeMemory written .standard policy) ∧
        decodeMemory counted .standard .skip = .ok f ∧
        ∃ (i : ℕ) (column : FrameColumn), leapDay.standing[i]? = some (⟨"at", "TIMESTAMP"⟩, 1) ∧
          f.columns[i]? = some column ∧
          column.values[0]? = some (.timestamp (Instant.atMicros 951868799999998)) := by
  have hload : MemoryCursor.ofDocument leapDay =
      .ok (.ofRows leapDay.columns [[some (.text "3f2a"), none]]) := rfl
  have hyear : 0 ≤ (Instant.atMicros 951868799999998).yearAt 19800 ∧
      (Instant.atMicros 951868799999998).yearAt 19800 ≤ 9999 := by decide
  have hdigits : "9999980000".toList.all Text.isDigit = true := rfl
  have hfraction : Rfc3339.SpellsFraction ((Instant.atMicros 951868799999998).nanos % 1000000000)
      ('.' :: "9999980000".toList) :=
    .point (by decide) (List.all_eq_true.mp hdigits) (by decide)
  have hzone : Rfc3339.SpellsZone 19800 "+05:30".toList :=
    .east (by decide : 5 < 24) (by decide : 30 < 60)
  have htext : Rfc3339.Renders (Instant.atMicros 951868799999998) 19800
      "2000-03-01t05:29:59.9999980000+05:30".toList :=
    .mk (by decide : 't' ∈ ['T', 't', ' ']) hfraction hzone
  exact ⟨_, hload, rfl, by decide, hyear, htext,
    decodeMemory_respelled hload rfl (by decide) hyear htext⟩

end Decode

end FrameSource
