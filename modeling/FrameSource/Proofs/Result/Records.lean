import FrameSource.Proofs.Result.Rows
import FrameSource.Proofs.Text.Numerals
import FrameSource.Result.Csv

/-!
# Comma-separated values are read back

The grammar of comma-separated values, as RFC 4180 has it, with a line feed at the end of every
record (`Csv.Spells`). Readers differ about a line without anything on it: to some it is a record
with one empty field, others skip it. The grammar is that of either kind.

`Csv.read?` reads such a text one character at a time. Every text of the grammar is read as the
records that it spells (`Spells.read?_eq`), so that no text spells two lists of records.

**A frame is read back** (`read?_write`), whichever way blank lines are taken: its columns' names,
and for every row the texts of its values. No value but null has an empty text
(`fieldText_eq_empty_iff`), and so the empty fields under the header are the nulls.

That a value is read back from the text of its field is not claimed, and would not hold: the text of
a field does not tell an integer from a floating-point number.
-/

namespace FrameSource.Csv

/-! ## The grammar -/

/-- The inside of a quoted field: quotes stand in pairs. -/
inductive Quoted : List Char → List Char → Prop
  | nil : Quoted [] []
  | pair {text cs : List Char} (h : Quoted text cs) : Quoted ('"' :: '"' :: text) ('"' :: cs)
  | other {c : Char} {text cs : List Char} (hc : c ≠ '"') (h : Quoted text cs) :
    Quoted (c :: text) (c :: cs)

/-- A field stands for itself if it holds no comma, quote or line break, and may stand in quotes. -/
inductive Field : List Char → List Char → Prop
  | bare {cs : List Char} (h : ∀ c ∈ cs, isSpecial c = false) : Field cs cs
  | quoted {text cs : List Char} (h : Quoted text cs) : Field ('"' :: (text ++ ['"'])) cs

/-- A record: one field or more, with commas between them. -/
inductive Record : List Char → List (List Char) → Prop
  | last {text field : List Char} (h : Field text field) : Record text [field]
  | more {text field line : List Char} {fields : List (List Char)} (h : Field text field)
    (hrest : Record line fields) : Record (text ++ ',' :: line) (field :: fields)

/-- Records, each with a line feed behind it. A blank line is skipped, or is a record. -/
inductive Spells (skips : Bool) : List Char → List (List (List Char)) → Prop
  | nil : Spells skips [] []
  | blank {text : List Char} {records : List (List (List Char))} (hskips : skips = true)
    (h : Spells skips text records) : Spells skips ('\n' :: text) records
  | record {line text : List Char} {fields : List (List Char)}
    {records : List (List (List Char))} (hline : Record line fields)
    (hblank : skips = true → line ≠ []) (h : Spells skips text records) :
    Spells skips (line ++ '\n' :: text) (fields :: records)

/-! ## The reader -/

/-- Where a reader stands in a text. -/
inductive Place where
  /-- At the start of a line. -/
  | line
  /-- At the start of a field. -/
  | field
  /-- Inside of a field without quotes. -/
  | bare
  /-- Between quotes. -/
  | quoted
  /-- Behind a quote that ends the field, unless a second one follows. -/
  | closing

/-- What a reader has read: the field so far, the fields of the line in front of it, and the records
in front of the line. -/
structure Reader where
  place : Place
  field : List Char
  fields : List (List Char)
  records : List (List (List Char))

namespace Reader

/-- At the start of a line, behind some records. -/
def atLine (records : List (List (List Char))) : Reader := ⟨.line, [], [], records⟩

/-- At the start of a field, behind some records and fields. -/
def atField (fields : List (List Char)) (records : List (List (List Char))) : Reader :=
  ⟨.field, [], fields, records⟩

/-- One more character of the field. -/
def put (r : Reader) (place : Place) (c : Char) : Reader :=
  { r with place := place, field := r.field ++ [c] }

/-- A character outside of quotes. -/
def stepBare (r : Reader) (c : Char) : Option Reader :=
  if c = ',' then some (atField (r.fields ++ [r.field]) r.records)
  else if c = '\n' then some (atLine (r.records ++ [r.fields ++ [r.field]]))
  else if isSpecial c then none
  else some (r.put .bare c)

/-- A character at the start of a field. -/
def stepField (r : Reader) (c : Char) : Option Reader :=
  if c = '"' then some { r with place := .quoted } else r.stepBare c

/-- One character. None where it cannot stand. -/
def step (skips : Bool) (r : Reader) (c : Char) : Option Reader :=
  match r.place with
  | .line => if skips ∧ c = '\n' then some r else r.stepField c
  | .field => r.stepField c
  | .bare => r.stepBare c
  | .quoted => if c = '"' then some { r with place := .closing } else some (r.put .quoted c)
  | .closing =>
    if c = '"' then some (r.put .quoted c)
    else if c = ',' ∨ c = '\n' then r.stepBare c
    else none

/-- All characters of a text. -/
def run (skips : Bool) : Reader → List Char → Option Reader
  | r, [] => some r
  | r, c :: cs => (r.step skips c).bind fun r => r.run skips cs

/-- The records that were read, behind the end of the last one. -/
def finish? (r : Reader) : Option (List (List (List Char))) :=
  match r.place with
  | .line => some r.records
  | _ => none

end Reader

/-- The records of a text. -/
def read? (skips : Bool) (text : String) : Option (List (List String)) :=
  ((Reader.atLine []).run skips text.toList).bind fun r =>
    r.finish?.map fun records => records.map (·.map String.ofList)

/-! ## Reading by the grammar -/

section Reading

variable {skips : Bool} {text cs field line rest : List Char} {fields : List (List Char)}
  {records : List (List (List Char))}

open Reader

/-- The inside of a quoted field is read up to the quote behind it. -/
theorem Quoted.run (h : Quoted text cs) :
    Reader.run skips ⟨.quoted, field, fields, records⟩ (text ++ rest) =
      Reader.run skips ⟨.quoted, field ++ cs, fields, records⟩ rest := by
  induction h generalizing field with
  | nil => rw [List.append_nil, List.nil_append]
  | @pair text cs _ ih =>
    show Reader.run skips ⟨.quoted, field ++ ['"'], fields, records⟩ (text ++ rest) = _
    rw [ih, List.append_assoc, List.singleton_append]
  | @other c text cs hc _ ih =>
    have hstep : Reader.step skips ⟨.quoted, field, fields, records⟩ c =
        some ⟨.quoted, field ++ [c], fields, records⟩ := if_neg hc
    rw [List.cons_append, Reader.run, hstep, Option.bind_some, ih, List.append_assoc,
      List.singleton_append]

theorem stepBare_of_not_isSpecial {r : Reader} {c : Char} (h : isSpecial c = false) :
    r.stepBare c = some (r.put .bare c) := by
  have hcomma : c ≠ ',' := by
    rintro rfl
    cases h
  have hline : c ≠ '\n' := by
    rintro rfl
    cases h
  rw [stepBare, if_neg hcomma, if_neg hline, h]
  rfl

theorem run_bare (h : ∀ c ∈ cs, isSpecial c = false) :
    Reader.run skips ⟨.bare, field, fields, records⟩ (cs ++ rest) =
      Reader.run skips ⟨.bare, field ++ cs, fields, records⟩ rest := by
  induction cs generalizing field with
  | nil => rw [List.append_nil, List.nil_append]
  | cons c cs ih =>
    obtain ⟨hc, hcs⟩ := List.forall_mem_cons.mp h
    have hstep : Reader.step skips ⟨.bare, field, fields, records⟩ c =
        some ⟨.bare, field ++ [c], fields, records⟩ := stepBare_of_not_isSpecial hc
    rw [List.cons_append, Reader.run, hstep, Option.bind_some, ih hcs, List.append_assoc,
      List.singleton_append]

/-- **A field is read up to what ends it.** -/
theorem Field.run (h : Field text field) {c : Char} (hc : c = ',' ∨ c = '\n') :
    (atField fields records).run skips (text ++ c :: rest) =
      (Reader.stepBare ⟨.field, field, fields, records⟩ c).bind (·.run skips rest) := by
  have hquote : c ≠ '"' := by
    rintro rfl
    obtain h | h := hc <;> cases h
  -- A bare field is read character by character, a quoted one up to its closing quote.
  cases h with
  | bare hbare =>
    cases text with
    | nil =>
      have hstep : (atField fields records).step skips c =
          Reader.stepBare ⟨.field, [], fields, records⟩ c := if_neg hquote
      rw [List.nil_append, Reader.run, hstep]
    | cons d ds =>
      obtain ⟨hd, hds⟩ := List.forall_mem_cons.mp hbare
      have hdquote : d ≠ '"' := by
        rintro rfl
        cases hd
      have hstep : (atField fields records).step skips d =
          some ⟨.bare, [d], fields, records⟩ :=
        (if_neg hdquote).trans (stepBare_of_not_isSpecial hd)
      rw [List.cons_append, Reader.run, hstep, Option.bind_some, run_bare hds, Reader.run]
      rfl
  | @quoted text cs hquoted =>
    have hstep : Reader.step skips ⟨.closing, field, fields, records⟩ c =
        Reader.stepBare ⟨.closing, field, fields, records⟩ c :=
      (if_neg hquote).trans (if_pos hc)
    rw [List.cons_append, List.append_assoc, List.singleton_append]
    show Reader.run skips ⟨.quoted, [], fields, records⟩ (text ++ '"' :: c :: rest) = _
    rw [hquoted.run, List.nil_append]
    show (Reader.step skips ⟨.closing, field, fields, records⟩ c).bind _ = _
    rw [hstep]
    rfl

/-- A record is read up to the end of its line. -/
theorem Record.run (h : Record line fields) {before : List (List Char)} :
    (atField before records).run skips (line ++ '\n' :: rest) =
      (atLine (records ++ [before ++ fields])).run skips rest := by
  induction h generalizing before with
  | last hfield =>
    rw [hfield.run (.inr rfl)]
    rfl
  | @more text field line fields hfield _ ih =>
    rw [List.append_assoc, List.cons_append, hfield.run (.inl rfl)]
    show (atField (before ++ [field]) records).run skips _ = _
    rw [ih, List.append_assoc, List.singleton_append]

/-- A record does not start with the end of its line. -/
theorem Record.head?_ne (h : Record line fields) : line.head? ≠ some '\n' := by
  have hfirst : ∀ {text field rest : List Char}, Field text field → rest.head? ≠ some '\n' →
      (text ++ rest).head? ≠ some '\n' := by
    intro text field rest hfield hrest
    cases hfield with
    | quoted => exact fun hhead => by cases Option.some.inj hhead
    | bare hbare =>
      cases text with
      | nil => exact hrest
      | cons c cs =>
        intro hhead
        obtain rfl := Option.some.inj hhead
        cases hbare '\n' List.mem_cons_self
  cases h with
  | last hfield =>
    rw [← List.append_nil line]
    exact hfirst hfield nofun
  | more hfield _ => exact hfirst hfield (fun hhead => by cases Option.some.inj hhead)

/-- **Every text of the grammar is read.** -/
theorem Spells.run {after : List (List (List Char))} (h : Spells skips text after) :
    (atLine records).run skips text = some (atLine (records ++ after)) := by
  induction h generalizing records with
  | nil => rw [List.append_nil, Reader.run]
  | @blank text after hskips _ ih =>
    have hstep : (atLine records).step skips '\n' = some (atLine records) := if_pos ⟨hskips, rfl⟩
    rw [Reader.run, hstep, Option.bind_some, ih]
  | @record line text fields after hline hblank _ ih =>
    -- The start of a line is the start of a field, unless the line is blank and skipped.
    have hstart : (atLine records).run skips (line ++ '\n' :: text) =
        (atField [] records).run skips (line ++ '\n' :: text) := by
      cases line with
      | nil =>
        have hstep : (atLine records).step skips '\n' = (atLine records).stepField '\n' :=
          if_neg fun h => hblank h.1 rfl
        rw [List.nil_append, Reader.run, hstep]
        rfl
      | cons c cs =>
        have hc : c ≠ '\n' := fun h => hline.head?_ne (congrArg some h)
        have hstep : (atLine records).step skips c = (atLine records).stepField c :=
          if_neg fun h => hc h.2
        rw [List.cons_append, Reader.run, hstep]
        rfl
    rw [hstart, hline.run, ih, List.append_assoc, List.nil_append, List.singleton_append]

/-- A text that spells records by the grammar is read as these records, and as no others. -/
theorem Spells.read?_eq (h : Spells skips text records) :
    read? skips (String.ofList text) = some (records.map (·.map String.ofList)) := by
  rw [read?, String.toList_ofList, h.run, Option.bind_some, List.nil_append]
  rfl

/-- No text spells two lists of records. -/
theorem Spells.unique {records' : List (List (List Char))} (h : Spells skips text records)
    (h' : Spells skips text records') : records = records' := by
  have hrun : some (atLine ([] ++ records)) = some (atLine ([] ++ records')) :=
    h.run.symm.trans h'.run
  exact congrArg Reader.records (Option.some.inj hrun)

end Reading

/-! ## Writing by the grammar -/

section Writing

variable {cs : List Char} {fields : List (List Char)}

/-- Doubling the quotes inside a field is what the grammar asks of a quoted one. -/
theorem quoted_doubleQuotes (cs : List Char) : Quoted (doubleQuotes cs) cs := by
  induction cs with
  | nil => exact .nil
  | cons c cs ih =>
    by_cases hc : c = '"'
    · rw [doubleQuotes, List.flatMap_cons, if_pos hc, hc]
      exact .pair ih
    · rw [doubleQuotes, List.flatMap_cons, if_neg hc]
      exact .other hc ih

/-- A field is written in one of the two forms, bare where it can be. -/
theorem field_writeField (cs : List Char) : Field (writeField cs) cs := by
  unfold writeField
  split
  · exact .quoted (quoted_doubleQuotes cs)
  · next h =>
    rw [List.any_eq_true] at h
    exact .bare fun c hc => Bool.eq_false_iff.mpr fun hspecial => h ⟨c, hc, hspecial⟩

/-- A record of at least one field is written with separators between them. With none at all it
could not be told from a record of one empty field. -/
theorem record_joinFields (h : fields ≠ []) : Record (joinFields fields) fields := by
  induction fields with
  | nil => exact absurd rfl h
  | cons field fields ih =>
    cases fields with
    | nil => exact .last (field_writeField field)
    | cons field' fields =>
      rw [joinFields, List.append_assoc, List.singleton_append]
      · exact .more (field_writeField field) (ih (List.cons_ne_nil _ _))
      · exact List.cons_ne_nil _ _

/-- Only a record of one empty field leaves its line blank. -/
theorem eq_of_joinFields_eq_nil (hne : fields ≠ []) (h : joinFields fields = []) :
    fields = [[]] := by
  have hrecord := record_joinFields hne
  rw [h] at hrecord
  generalize hline : ([] : List Char) = line at hrecord
  cases hrecord with
  | last hfield =>
    cases hfield with
    | bare => rw [← hline]
    | quoted => cases hline
  | more => simp at hline

/-- **A record is written in full**: its line is not blank, even if all its fields are empty. -/
theorem exists_writeRecord (h : fields ≠ []) :
    ∃ line, writeRecord fields = line ++ ['\n'] ∧ line ≠ [] ∧ Record line fields := by
  by_cases hline : joinFields fields = []
  · obtain rfl := eq_of_joinFields_eq_nil h hline
    exact ⟨['"', '"'], rfl, List.cons_ne_nil _ _, .last (.quoted .nil)⟩
  · refine ⟨joinFields fields, ?_, hline, record_joinFields h⟩
    simp only [writeRecord, List.isEmpty_eq_false_iff.mpr hline, Bool.false_eq_true, if_false]

/-- Written records are spelled by their text, under both readings of blank lines. The writer leaves
no line blank: one without characters is written as an empty field in quotes. -/
theorem spells_writeRecords {records : List (List (List Char))} (h : ∀ r ∈ records, r ≠ [])
    (skips : Bool) : Spells skips (records.flatMap writeRecord) records := by
  induction records with
  | nil => exact .nil
  | cons r rs ih =>
    obtain ⟨hr, hrs⟩ := List.forall_mem_cons.mp h
    obtain ⟨line, hwrite, hne, hrecord⟩ := exists_writeRecord hr
    rw [List.flatMap_cons, hwrite, List.append_assoc, List.singleton_append]
    exact .record hrecord (fun _ => hne) (ih hrs)

end Writing

/-! ## The texts of values -/

theorem ofList_ne_empty {cs : List Char} (h : cs ≠ []) : String.ofList cs ≠ "" := by
  intro hempty
  exact h (String.toList_ofList.symm.trans (congrArg String.toList hempty))

/-- A number is not written as the empty text, which is kept for null. -/
theorem spell_plain_ne_empty {format : BinaryFormat} (x : Floating format) :
    x.spell .plain ≠ "" := by
  cases x with
  | nan => exact (by decide : "NaN" ≠ "")
  | infinite s =>
    cases s with
    | true => exact (by decide : "-inf" ≠ "")
    | false => exact (by decide : "inf" ≠ "")
  | finite s m q =>
    refine ofList_ne_empty (List.append_ne_nil_of_right_ne_nil _ ?_)
    show Spelling.plain.writePositional _ ≠ []
    unfold Spelling.writePositional
    split
    · exact List.append_ne_nil_of_left_ne_nil
        (List.append_ne_nil_of_left_ne_nil (Text.decimal_ne_nil _) _) _
    · simp only
      split
      · exact List.append_ne_nil_of_left_ne_nil
          (List.append_ne_nil_of_right_ne_nil _ (List.cons_ne_nil _ _)) _
      · exact List.append_ne_nil_of_left_ne_nil
          (List.append_ne_nil_of_left_ne_nil (List.cons_ne_nil _ _) _) _

/-- A time ends with its offset, which has a sign. -/
theorem write_ne_empty (t : ZonedInstant) : Rfc3339.write t ≠ "" := by
  refine ofList_ne_empty (List.append_ne_nil_of_right_ne_nil _ ?_)
  exact List.append_ne_nil_of_left_ne_nil (List.append_ne_nil_of_left_ne_nil
    (List.append_ne_nil_of_left_ne_nil (List.append_ne_nil_of_left_ne_nil
      (List.cons_ne_nil _ _) _) _) _) _

/-- **Only null has an empty text.** -/
theorem fieldText_eq_empty_iff {v : Value} : fieldText v = "" ↔ v = .null := by
  have htext : v ≠ .null → fieldText v ≠ "" := by
    intro hv
    cases v with
    | bool b =>
      cases b with
      | true => exact (by decide : "true" ≠ "")
      | false => exact (by decide : "false" ≠ "")
    | int16 n => exact ofList_ne_empty (Text.of_readInt? (Text.readInt?_decimalInt n.toInt)).1
    | float32 x => exact spell_plain_ne_empty x
    | float64 x => exact spell_plain_ne_empty x
    | timestamp t => exact write_ne_empty t.utc
    | null => exact absurd rfl hv
  constructor
  · exact not_imp_not.mp htext
  · rintro rfl
    rfl

/-! ## The records of a frame -/

/-- What the records of a frame are: the names of its columns, and for every row the texts of its
values. -/
structure Tabulates (f : Frame) (records : List (List String)) : Prop where
  /-- One record more than rows. -/
  count : records.length = f.rowCount + 1
  /-- Every record has one field for each column. -/
  width : ∀ r ∈ records, r.length = f.columns.length
  /-- The first record has the names. -/
  names : records[0]? = some (f.columns.map (·.name))
  /-- In the records behind it is the text of each value, and nothing exactly for null. -/
  fields : ∀ (j row : ℕ) (column : FrameColumn) (v : Value), f.columns[j]? = some column →
    column.get? row = some v → ∃ r s, records[row + 1]? = some r ∧ r[j]? = some s ∧
      (v ≠ .null → s = v.text) ∧ (s = "" ↔ v = .null)

theorem fieldText_of_ne_null {v : Value} (h : v ≠ .null) : fieldText v = v.text := by
  cases v with
  | null => exact absurd rfl h
  | _ => rfl

/-- The records of a frame, from the header to the last row, with null as the empty field. -/
theorem tabulates_records (f : Frame) : Tabulates f (records f) where
  count := by rw [records, List.length_cons, List.length_map, f.length_rows]
  width r hr := by
    obtain rfl | hr := List.mem_cons.mp hr
    · exact List.length_map _
    · obtain ⟨values, hvalues, rfl⟩ := List.mem_map.mp hr
      obtain ⟨row, hrow⟩ := Frame.exists_row?_of_mem hvalues
      rw [List.length_map, (Frame.forall₂_row? hrow).length_eq]
  names := rfl
  fields j row column v hcolumn hv := by
    obtain ⟨values, hvalues, hentry⟩ := Frame.exists_row?_of_get? hcolumn hv
    refine ⟨values.map fieldText, fieldText v, ?_, ?_, fieldText_of_ne_null,
      fieldText_eq_empty_iff⟩
    · rw [records, List.getElem?_cons_succ, List.getElem?_map, f.getElem?_rows, hvalues,
        Option.map_some]
    · rw [List.getElem?_map, hentry, Option.map_some]

theorem spells_write {f : Frame} (h : f.columns ≠ []) (skips : Bool) :
    Spells skips (write f).toList ((records f).map (·.map String.toList)) := by
  have htext : (write f).toList = ((records f).map (·.map String.toList)).flatMap writeRecord := by
    rw [write, String.toList_ofList, List.flatMap_map]
  rw [htext]
  refine spells_writeRecords ?_ skips
  intro r hr
  obtain ⟨strings, hstrings, rfl⟩ := List.mem_map.mp hr
  apply List.ne_nil_of_length_pos
  rw [List.length_map, (tabulates_records f).width strings hstrings]
  exact List.length_pos_of_ne_nil h

/-- **A frame is read back** from its comma-separated values, whether blank lines are skipped or
not, and these spell nothing but its records. -/
theorem read?_write {f : Frame} (h : f.columns ≠ []) (skips : Bool) :
    ∃ records, Tabulates f records ∧ read? skips (write f) = some records ∧
      ∀ records', Spells skips (write f).toList records' ↔
        records' = records.map (·.map String.toList) := by
  have hspells := spells_write h skips
  have hread : read? skips (write f) = some (records f) := by
    have hrecords := hspells.read?_eq
    simpa only [String.ofList_toList, List.map_map, Function.comp_def, List.map_id'] using hrecords
  refine ⟨records f, tabulates_records f, hread, fun records' => ⟨fun h' => ?_, ?_⟩⟩
  · exact h'.unique hspells
  · rintro rfl
    exact hspells

/-- One column, under a name that has to stand in quotes, with a null in it. -/
def hostileName : Frame where
  columns := [⟨"a,\"b\"\r\n", "BOOL", .bool, [.null, .bool true]⟩]
  rowCount := 2
  rectangular := by decide

/-- A column whose name has a separator, quotes and a line break is read back, and so is the null in
it. -/
theorem read?_write_hostileName :
    hostileName.columns ≠ [] ∧ write hostileName = "\"a,\"\"b\"\"\r\n\"\n\"\"\ntrue\n" ∧
      Tabulates hostileName [["a,\"b\"\r\n"], [""], ["true"]] ∧
      read? true (write hostileName) = some [["a,\"b\"\r\n"], [""], ["true"]] := by
  have hcolumns : hostileName.columns ≠ [] := List.cons_ne_nil _ _
  obtain ⟨records, htabulates, hread, -⟩ := read?_write hcolumns true
  have hrecords : read? true (write hostileName) = some [["a,\"b\"\r\n"], [""], ["true"]] := rfl
  obtain rfl := Option.some.inj (hread.symm.trans hrecords)
  exact ⟨hcolumns, rfl, htabulates, hrecords⟩

/-- A frame without columns is not read back: its only record has no field. -/
example : read? true (write ⟨[], 0, nofun⟩) = some [[""]] := rfl

end FrameSource.Csv
