import FrameSource.Proofs.Result.Rows
import FrameSource.Result.Table
import Mathlib.Data.String.Basic

/-!
# How tables are laid out

The width of a column is measured in bytes and its texts are filled up in characters. A text has at
least as many bytes as characters, so no text is longer than its column is wide, and every text of a
column is filled up to the same number of characters.

`Table.lines?` lays a table out cell by cell: it looks every text up by the number of its column,
and the subtraction for the rule fails below zero. Where there is a column it never fails, and gives
the lines of the table (`lines?_eq`).

**The columns of a table are aligned** (`lines_aligned`): header, rule and rows have one length, and
every name and every cell stands in full at the offset of its column.

Lines are aligned in characters. Whether they look aligned depends on how wide the characters are
shown, and characters that combine or take two places are not told apart from others.
-/

namespace FrameSource.Table

/-! ## Lengths -/

/-- A text has at least as many bytes as characters. -/
theorem length_le_utf8ByteSize (s : String) : s.length ≤ s.utf8ByteSize := by
  have hlist : ∀ cs : List Char, cs.length ≤ String.utf8Len cs := by
    intro cs
    induction cs with
    | nil => exact Nat.le_refl 0
    | cons c cs ih =>
      have hc := c.utf8Size_pos
      rw [List.length_cons, String.utf8Len_cons]
      omega
  have hs := hlist s.toList
  rwa [← String.utf8ByteSize_ofList, String.ofList_toList, String.length_toList] at hs

theorem length_pad {width : ℕ} {s : String} (h : s.length ≤ width) :
    (pad width s).length = width := by
  rw [pad, String.length_append, String.length_ofList, List.length_replicate]
  omega

/-- Texts that are no longer than the columns are wide. -/
def Fit (widths : List ℕ) (texts : List String) : Prop :=
  List.Forall₂ (fun width s => s.length ≤ width) widths texts

theorem line_singleton (width : ℕ) (s : String) : line [width] [s] = pad width s :=
  String.intercalate_singleton

theorem line_cons_cons (w w' : ℕ) (ws : List ℕ) (t t' : String) (ts : List String) :
    line (w :: w' :: ws) (t :: t' :: ts) = pad w t ++ (" | " ++ line (w' :: ws) (t' :: ts)) := by
  rw [← String.append_assoc]
  exact String.intercalate_cons_cons

/-- The sum of the widths. -/
def total (widths : List ℕ) : ℕ :=
  widths.foldr (· + ·) 0

theorem total_cons (w : ℕ) (ws : List ℕ) : total (w :: ws) = w + total ws := rfl

/-- The number of characters that a line of texts has. -/
def lineLength (widths : List ℕ) : ℕ :=
  total widths + 3 * (widths.length - 1)

/-- All lines of texts that fit are of one length, which the widths determine. -/
theorem length_line {widths : List ℕ} {texts : List String} (h : Fit widths texts) :
    (line widths texts).length = lineLength widths := by
  induction h with
  | nil => rfl
  | @cons w t ws ts hfirst hrest ih =>
    cases hrest with
    | nil =>
      rw [line_singleton, length_pad hfirst]
      rfl
    | @cons w' t' ws ts =>
      have hbar : " | ".length = 3 := rfl
      rw [line_cons_cons, String.length_append, String.length_append, ih, length_pad hfirst, hbar]
      simp only [lineLength, total_cons, List.length_cons]
      omega

/-- The rule is as long as the lines are, with a dash for each character. -/
theorem length_rule (widths : List ℕ) : (rule widths).length = lineLength widths := by
  rw [rule, String.length_ofList, List.length_replicate]
  rfl

/-! ## Offsets -/

/-- The number of characters in front of a column. -/
def offset (widths : List ℕ) (j : ℕ) : ℕ :=
  total (widths.take j) + 3 * j

/-- From a number of characters on, a line shows a text in full, and blanks up to a width. -/
structure ShowsAt (start width : ℕ) (text line : String) : Prop where
  fits : text.length ≤ width
  split : ∃ before after : String,
    line = before ++ (text ++ String.ofList (List.replicate (width - text.length) ' ')) ++ after ∧
      before.length = start

/-- More in front of a line moves its texts. -/
theorem ShowsAt.prepend {start width : ℕ} {text line : String} (h : ShowsAt start width text line)
    (front : String) : ShowsAt (front.length + start) width text (front ++ line) := by
  obtain ⟨hfits, before, after, rfl, rfl⟩ := h
  refine ⟨hfits, front ++ before, after, ?_, String.length_append _ _⟩
  simp only [String.append_assoc]

/-- **Every text of a line stands at the offset of its column.** -/
theorem showsAt_line {widths : List ℕ} {texts : List String} (h : Fit widths texts) {j width : ℕ}
    {text : String} (hwidth : widths[j]? = some width) (htext : texts[j]? = some text) :
    ShowsAt (offset widths j) width text (line widths texts) := by
  induction h generalizing j with
  | nil => cases hwidth
  | @cons w t ws ts hfirst hrest ih =>
    cases j with
    | zero =>
      obtain rfl := Option.some.inj hwidth
      obtain rfl := Option.some.inj htext
      cases hrest with
      | nil => exact ⟨hfirst, "", "", by rw [line_singleton, pad]; simp, rfl⟩
      | @cons w' t' ws ts =>
        exact ⟨hfirst, "", _, by rw [line_cons_cons, pad, String.empty_append], rfl⟩
    | succ j =>
      have hmoved := (ih hwidth htext).prepend (pad w t ++ " | ")
      have hoffset : (pad w t ++ " | ").length + offset ws j = offset (w :: ws) (j + 1) := by
        have hbar : " | ".length = 3 := rfl
        rw [String.length_append, length_pad hfirst, hbar]
        simp only [offset, List.take_succ_cons, total_cons]
        omega
      cases hrest with
      | nil => cases hwidth
      | @cons w' t' ws ts =>
        rw [hoffset, String.append_assoc] at hmoved
        rwa [line_cons_cons]

/-! ## Columns -/

variable {f : Frame} {column : FrameColumn}

/-- The name of a column and all its texts fit its width, which is counted in bytes and so may be
greater than what any of them needs. -/
theorem le_columnWidth {s : String} (h : s ∈ column.name :: columnTexts column) :
    s.length ≤ columnWidth column := by
  have hbytes : ∀ texts : List String, s ∈ texts →
      s.utf8ByteSize ≤ texts.foldr (fun s width => max s.utf8ByteSize width) 0 := by
    intro texts hs
    induction texts with
    | nil => cases hs
    | cons t ts ih =>
      obtain rfl | hs := List.mem_cons.mp hs
      · exact Nat.le_max_left _ _
      · exact Nat.le_trans (ih hs) (Nat.le_max_right _ _)
  exact Nat.le_trans (length_le_utf8ByteSize s) (hbytes _ h)

theorem fit_names (f : Frame) : Fit (widths f) (f.columns.map (·.name)) := by
  rw [Fit, widths, List.forall₂_map_left_iff, List.forall₂_map_right_iff, List.forall₂_same]
  exact fun column _ => le_columnWidth List.mem_cons_self

theorem length_widths (f : Frame) : (widths f).length = f.columns.length :=
  List.length_map _

theorem getElem?_widths {j : ℕ} (h : f.columns[j]? = some column) :
    (widths f)[j]? = some (columnWidth column) := by
  rw [widths, List.getElem?_map, h, Option.map_some]

theorem fit_row {row : ℕ} {values : List Value} (h : f.row? row = some values) :
    Fit (widths f) (values.map cellText) := by
  rw [Fit, widths, List.forall₂_map_left_iff, List.forall₂_map_right_iff]
  refine (Frame.forall₂_row? h).imp fun column v hv => ?_
  have hmem : v ∈ column.values := List.mem_of_getElem? hv
  exact le_columnWidth (List.mem_cons_of_mem _ (List.mem_map_of_mem hmem))

/-! ## Laying out cell by cell -/

/-- The texts of the rows. -/
def rowTexts (f : Frame) : List (List String) :=
  f.rows.map (·.map cellText)

/-- The width of a column by its number. None if there is no such column, or if a row has no text of
that number. -/
def widthAt? (f : Frame) (j : ℕ) : Option ℕ := do
  let column ← f.columns[j]?
  let texts ← (rowTexts f).mapM (·[j]?)
  return (column.name :: texts).foldr (fun s width => max s.utf8ByteSize width) 0

/-- The number of dashes under the header. None if there are fewer columns than one. -/
def dashes? (widths : List ℕ) : Option ℕ :=
  if 1 ≤ widths.length then some (total widths + 3 * (widths.length - 1)) else none

/-- The lines of a table, by numbers of columns. -/
def lines? (f : Frame) : Option (List String) := do
  let widths ← (List.range f.columns.length).mapM (widthAt? f)
  let dashes ← dashes? widths
  return [line widths (f.columns.map (·.name)), String.ofList (List.replicate dashes '-')] ++
    ((rowTexts f).map (line widths) ++ if (rowTexts f).isEmpty then ["No rows"] else [])

/-- The texts of a column are those at its number in the rows. -/
theorem mapM_rowTexts {j : ℕ} (h : f.columns[j]? = some column) :
    (rowTexts f).mapM (·[j]?) = some (columnTexts column) := by
  have hvalues := Frame.forall₂_values (List.mem_of_getElem? h)
  apply mapM_of_forall₂
  rw [rowTexts, columnTexts, List.forall₂_map_left_iff, List.forall₂_map_right_iff]
  refine forall₂_of_common ?_ f.forall₂_rows hvalues
  intro row values v hentries hv
  obtain ⟨w, hw, hread⟩ := forall₂_getElem? hentries h
  obtain rfl := Option.some.inj (hv.symm.trans hread)
  rw [List.getElem?_map, hw, Option.map_some]

/-- The widths are found for all columns: no index is out of bounds. -/
theorem mapM_widthAt? (f : Frame) :
    (List.range f.columns.length).mapM (widthAt? f) = some (widths f) := by
  apply mapM_of_forall₂
  rw [widths, List.forall₂_map_right_iff]
  refine (forall₂_range f.columns).imp fun j column hcolumn => ?_
  rw [widthAt?, hcolumn, Option.bind_eq_bind, Option.bind_some, mapM_rowTexts hcolumn]
  rfl

theorem isEmpty_rows (f : Frame) : f.rows.isEmpty = f.isEmpty := by
  rw [Frame.isEmpty, ← f.length_rows]
  cases f.rows <;> rfl

/-- **Nothing fails in laying out a table that has a column.** -/
theorem lines?_eq (h : f.columns ≠ []) : lines? f = some (lines f) := by
  have hcount : 1 ≤ (widths f).length := by
    rw [length_widths]
    exact List.length_pos_of_ne_nil h
  have hbody : (rowTexts f).map (line (widths f)) ++
      (if (rowTexts f).isEmpty then ["No rows"] else []) =
        if f.isEmpty then ["No rows"] else body f := by
    rw [← isEmpty_rows, rowTexts, body]
    cases f.rows with
    | nil => rfl
    | cons values rows => simp
  have hlines : lines f = [header f, rule (widths f)] ++
      (if f.isEmpty then ["No rows"] else body f) := by
    rw [lines, if_neg (by simpa using h)]
  have hdashes : dashes? (widths f) =
      some (total (widths f) + 3 * ((widths f).length - 1)) := if_pos hcount
  rw [lines?, mapM_widthAt?, hlines, ← hbody, Option.bind_eq_bind, Option.bind_some, hdashes]
  rfl

/-! ## Alignment -/

/-- What is the same for all lines of a table. -/
structure Aligned (f : Frame) : Prop where
  /-- Header, rule and rows have one length. -/
  lengths : ∀ l ∈ header f :: rule (widths f) :: body f,
    l.length = total (widths f) + 3 * (f.columns.length - 1)
  /-- There is a line for each row. -/
  rows : (body f).length = f.rowCount
  /-- Every name stands in the header in full, at the offset of its column. -/
  names : ∀ (j : ℕ) (column : FrameColumn), f.columns[j]? = some column →
    ShowsAt (offset (widths f) j) (columnWidth column) column.name (header f)
  /-- Every cell stands in the line of its row in full, at the offset of its column. -/
  cells : ∀ (j : ℕ) (column : FrameColumn), f.columns[j]? = some column →
    ∀ (row : ℕ) (v : Value), column.get? row = some v → ∃ l, (body f)[row]? = some l ∧
      ShowsAt (offset (widths f) j) (columnWidth column) (cellText v) l

/-- The line of a row. -/
theorem getElem?_body {row : ℕ} {values : List Value} (h : f.row? row = some values) :
    (body f)[row]? = some (line (widths f) (values.map cellText)) := by
  rw [body, List.getElem?_map, f.getElem?_rows, h, Option.map_some]

/-- **The drawing of every frame is aligned**, from what is known of its lines. -/
theorem aligned (f : Frame) : Aligned f where
  lengths l hl := by
    rw [← length_widths f]
    obtain rfl | hl := List.mem_cons.mp hl
    · exact length_line (fit_names f)
    obtain rfl | hl := List.mem_cons.mp hl
    · exact length_rule (widths f)
    · obtain ⟨values, hvalues, rfl⟩ := List.mem_map.mp hl
      obtain ⟨row, hrow⟩ := Frame.exists_row?_of_mem hvalues
      exact length_line (fit_row hrow)
  rows := by rw [body, List.length_map, f.length_rows]
  names j column hcolumn := by
    refine showsAt_line (fit_names f) (getElem?_widths hcolumn) ?_
    rw [List.getElem?_map, hcolumn, Option.map_some]
  cells j column hcolumn row v hv := by
    obtain ⟨values, hvalues, hentry⟩ := Frame.exists_row?_of_get? hcolumn hv
    refine ⟨_, getElem?_body hvalues, ?_⟩
    refine showsAt_line (fit_row hvalues) (getElem?_widths hcolumn) ?_
    rw [List.getElem?_map, hentry, Option.map_some]

/-- **The columns of a table are aligned.** For a frame with a column the table is laid out without
a failure: a header, a rule, and a line for each row, or the remark that there is none. Header, rule
and rows have one length, and every text stands in full at the offset of its column. -/
theorem lines_aligned (h : f.columns ≠ []) :
    lines? f = some (lines f) ∧
    lines f = header f :: rule (widths f) :: (if f.rowCount = 0 then ["No rows"] else body f) ∧
    Aligned f := by
  refine ⟨lines?_eq h, ?_, aligned f⟩
  rw [lines, if_neg (by simpa using h), Frame.isEmpty]
  simp only [decide_eq_true_eq]
  rfl

/-- Names with more bytes than characters over values that are shorter. -/
def wideNames : Frame where
  columns := [⟨"größe", "BOOL", .bool, [.bool true, .null]⟩,
    ⟨"π", "INT2", .int16, [.int16 (-7), .int16 0]⟩]
  rowCount := 2
  rectangular := by decide

/-- A frame with names outside of ASCII, whose columns are wider than their characters need. -/
theorem lines_aligned_wideNames :
    wideNames.columns ≠ [] ∧ Aligned wideNames ∧ lines? wideNames = some
      ["größe   | π ", "------------", "true    | -7", "-       | 0 "] := by
  have hcolumns : wideNames.columns ≠ [] := List.cons_ne_nil _ _
  obtain ⟨hlines, -, haligned⟩ := lines_aligned hcolumns
  refine ⟨hcolumns, haligned, ?_⟩
  rw [hlines]
  rfl

end FrameSource.Table
