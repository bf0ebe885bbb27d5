import FrameSource.Proofs.Json.ReadBack
import FrameSource.Proofs.Result.Readings

/-!
# Nulls in written frames

Where the text of a frame has null, for a frame that was decoded from a document. The only other value
that is written as null is a number that is not finite. No number of a document is one, but narrowing
may make one of it: a double that reaches the limit of the singles becomes infinite in a column of
singles (`Json.Value.Overflows`). No integer of 64 bits is as great as that.

**What is null in the text** (`decodeMemory_written`) are the items that are null, and those that
overflow.
-/

namespace FrameSource

/-- A double in a column of singles that is rounded to infinity there. -/
def Json.Value.Overflows (wireType : String) (item : Json.Value) : Prop :=
  wireType = "FLOAT4" ∧
    ∃ x : Double, item = .number (.double x) ∧ BinaryFormat.single.limit ≤ |x.value|

/-- The column of a number, in the tree of a frame. -/
def Json.Tree.column? (i : ℕ) (t : Json.Tree) : Option Json.Tree := do
  (← t.member? "columns").item? i

/-- The name of a column, in the tree of a frame. -/
def Json.Tree.columnName? (i : ℕ) (t : Json.Tree) : Option String := do
  (← (← t.column? i).member? "name").string?

/-- The cell of a column and a row, in the tree of a frame. -/
def Json.Tree.cell? (i row : ℕ) (t : Json.Tree) : Option Json.Tree := do
  (← (← t.column? i).member? "values").item? row

/-! ## Trees of frames -/

section

variable {f : Frame} {i row : ℕ} {column : FrameColumn}

/-- Looking a column up in the written tree is looking it up in the frame. -/
theorem Frame.column?_tree (h : f.columns[i]? = some column) :
    f.toJson.tree.column? i = some column.toJson.tree := by
  have hcolumns : f.toJson.tree.member? "columns" =
      some (Json.Value.array (f.columns.map FrameColumn.toJson)).tree := by
    rw [Frame.toJson, Json.member?_tree]
    rfl
  rw [Json.Tree.column?, hcolumns]
  show (Json.Value.array (f.columns.map FrameColumn.toJson)).tree.item? i = _
  rw [Json.item?_tree, List.getElem?_map, h]
  rfl

/-- The tree of a frame has the names of its columns. -/
theorem Frame.columnName?_tree (h : f.columns[i]? = some column) :
    f.toJson.tree.columnName? i = some column.name := by
  have hname : column.toJson.tree.member? "name" = some (Json.Value.string column.name).tree := by
    rw [FrameColumn.toJson, Json.member?_tree]
    rfl
  rw [Json.Tree.columnName?, Frame.column?_tree h]
  show (column.toJson.tree.member? "name").bind Json.Tree.string? = _
  rw [hname]
  exact Json.text?_unitsOf column.name

/-- The tree of a frame has the tree of a value at the place of the value. -/
theorem Frame.cell?_tree (h : f.columns[i]? = some column) {v : Value}
    (hv : column.values[row]? = some v) : f.toJson.tree.cell? i row = some v.toJson.tree := by
  have hvalues : column.toJson.tree.member? "values" =
      some (Json.Value.array (column.values.map Value.toJson)).tree := by
    rw [FrameColumn.toJson, Json.member?_tree]
    rfl
  rw [Json.Tree.cell?, Frame.column?_tree h]
  show (column.toJson.tree.member? "values").bind (Json.Tree.item? row) = _
  rw [hvalues]
  show (Json.Value.array (column.values.map Value.toJson)).tree.item? row = _
  rw [Json.item?_tree, List.getElem?_map, hv]
  rfl

end

/-- A number of its format is written as a number. -/
theorem Json.floatingNumeral?_ne_none {format : BinaryFormat} {x : Floating format}
    (h : x.InFormat) (style : Spelling) : Json.floatingNumeral? style x ≠ none := by
  obtain ⟨s, m, q, rfl⟩ := h.exists_finite
  exact nofun

theorem Json.Number.tree_ne_null {n : Json.Number} (h : n.numeral? ≠ none) : n.tree ≠ .null := by
  rw [Json.Number.tree]
  cases hnumeral : n.numeral? with
  | none => exact absurd hnumeral h
  | some numeral => exact nofun

/-! ## Numbers that overflow -/

/-- The limit of the singles as an integer, from which on a double is narrowed to an infinite
number. -/
theorem limit_single : BinaryFormat.single.limit = (2 ^ 25 - 1) * 2 ^ 103 := by
  have hunit : (2 : ℚ) ^ (104 : ℤ) = 2 ^ 104 := zpow_natCast 2 104
  show ((2 : ℚ) ^ 24 - 1 / 2) * 2 ^ (104 : ℤ) = _
  rw [hunit]
  norm_num

/-- The double of an integer of 64 bits is below the limit of the singles. -/
theorem abs_value_lt_limit {n : ℤ} {x : Double} (h : x.IsNearest n)
    (hheld : (Json.Number.int n).IsHeld) : |x.value| < BinaryFormat.single.limit := by
  obtain ⟨low, hlow, hlowValue⟩ := Floating.exists_value_eq (n := -1) (by decide)
    (show 64 ≤ 971 by decide)
  obtain ⟨high, hhigh, hhighValue⟩ := Floating.exists_value_eq (n := 1) (by decide)
    (show 64 ≤ 971 by decide)
  have hbounds : (-1 * 2 ^ 64 : ℤ) ≤ n ∧ n ≤ 1 * 2 ^ 64 := by
    have hle := hheld.1
    have hlt := hheld.2
    omega
  have hle := h.le_value hlow (by rw [hlowValue]; exact_mod_cast hbounds.1)
  have hge := h.value_le hhigh (by rw [hhighValue]; exact_mod_cast hbounds.2)
  have hsmall : (2 : ℚ) ^ 64 < BinaryFormat.single.limit := by
    rw [limit_single]
    norm_num
  rw [hlowValue] at hle
  rw [hhighValue] at hge
  push_cast at hle hge
  exact abs_lt.mpr ⟨by linarith, by linarith⟩

/-- A single that a double is narrowed to is written as null exactly if the double overflows. -/
theorem tree_single_eq_null_iff {x : Double} {y : Single} (h : x.Narrows y) :
    (Value.float32 y).toJson.tree = .null ↔ BinaryFormat.single.limit ≤ |x.value| := by
  constructor
  · intro hnull
    by_contra hlt
    have hnear := h.inRange (not_le.mp hlt)
    have hnumeral := Json.floatingNumeral?_ne_none hnear.inFormat .jsonSingle
    exact Json.Number.tree_ne_null (n := .single y) hnumeral hnull
  · intro hle
    rw [h.beyond hle]
    rfl

/-! ## Items of documents -/

/-- What a cell is written as: null only if it stands for a number that overflows. -/
theorem Cell.Reads.tree_eq_null_iff {wireType : String} {item : Json.Value} {cell : Cell}
    (h : Cell.Reads wireType item (some cell)) (hheld : ∀ n, item = .number n → n.IsHeld)
    {v : Value} (hv : cell.value? = some v) :
    v.toJson.tree = .null ↔ item.Overflows wireType := by
  cases h with
  | bool htype b =>
    obtain rfl := Option.some.inj hv
    exact iff_of_false nofun fun hover => nomatch hover.2
  | int16 htype hsame =>
    obtain rfl := Option.some.inj hv
    exact iff_of_false nofun fun hover => nomatch hover.2
  | @float32 htype n x y hdouble hsingle =>
    obtain rfl := Option.some.inj hv
    rw [tree_single_eq_null_iff hsingle, Json.Value.Overflows]
    -- An integer is too small to overflow, so it takes a double.
    cases n with
    | int n =>
      refine iff_of_false (not_le.mpr (abs_value_lt_limit hdouble.1 (hheld _ rfl))) ?_
      rintro ⟨_, _, ⟨⟩, _⟩
    | double x' =>
      obtain rfl : x = x' := hdouble
      constructor
      · exact fun hle => ⟨htype, x, rfl, hle⟩
      · rintro ⟨_, _, ⟨⟩, hle⟩
        exact hle
    | single x' => cases hdouble
  | @float64 htype n x hdouble =>
    obtain rfl := Option.some.inj hv
    have hformat : x.InFormat := by
      cases n with
      | int n => exact hdouble.1.inFormat
      | double x' =>
        obtain rfl : x = x' := hdouble
        exact hheld _ rfl
      | single x' => cases hdouble
    have hnumeral := Json.floatingNumeral?_ne_none hformat .jsonDouble
    refine iff_of_false (Json.Number.tree_ne_null (n := .double x) hnumeral) ?_
    rintro ⟨htype', _⟩
    exact absurd (htype.symm.trans htype') (by decide)
  | written htype hread =>
    obtain rfl := Option.some.inj hv
    exact iff_of_false nofun fun hover => nomatch hover.2
  | micros htype hvalid hnanos hsame =>
    obtain rfl := Option.some.inj hv
    refine iff_of_false nofun ?_
    rintro ⟨_, _, ⟨⟩, _⟩
  | text hother s => cases hv
  | compact hother hnull hstring => cases hv

/-- **What an item becomes is written as null** exactly if it is null or overflows. -/
theorem Json.Value.Becomes.tree_eq_null_iff {wireType : String} {item : Json.Value}
    {v : FrameSource.Value} (h : item.Becomes wireType v)
    (hheld : ∀ n, item = .number n → n.IsHeld) :
    v.toJson.tree = .null ↔ item = .null ∨ item.Overflows wireType := by
  cases h with
  | null => exact iff_of_true rfl (Or.inl rfl)
  | cell hread hvalue =>
    have hreading := Cell.reading_ofJson wireType hheld
    rw [hread] at hreading
    cases hreading with
    | ok _ hreads =>
      have hnull : item ≠ .null := by
        rintro rfl
        cases hread
      rw [hreads.tree_eq_null_iff hheld hvalue, or_iff_right hnull]

namespace Decode

/-! ## The document -/

/-- In the text of a frame that holds what the items of a document become, a cell is null exactly if
its item is null or overflows. -/
theorem nulls_of_yields {d : ResultDocument} (hheld : d.IsHeld) {f : Frame} (h : d.Yields f)
    {i : ℕ} {column : Column} {position : ℕ} (hstanding : d.standing[i]? = some (column, position)) :
    f.toJson.tree.columnName? i = some column.name ∧
      ∀ (row : ℕ) (vs : List Json.Value), d.rows[row]? = some vs →
        ∃ item cell, vs[position]? = some item ∧ f.toJson.tree.cell? i row = some cell ∧
          (cell = .null ↔ item = .null ∨ item.Overflows column.wireType) := by
  obtain ⟨written, hcolumn, hname, _, hvalues⟩ := forall₂_getElem? h.columns hstanding
  refine ⟨hname ▸ Frame.columnName?_tree hcolumn, ?_⟩
  intro row vs hvs
  obtain ⟨v, hv, item, hitem, hbecomes⟩ := forall₂_getElem? hvalues hvs
  refine ⟨item, v.toJson.tree, hitem, Frame.cell?_tree hcolumn hv, hbecomes.tree_eq_null_iff ?_⟩
  rintro n rfl
  exact hheld vs (List.mem_of_getElem? hvs) n (List.mem_of_getElem? hitem)

/-- **From text to text.** A text that holds a document of which every row can be read is loaded and
decoded under the policy to skip, whatever numbers stand in it; and in the text of the frame a cell is
null exactly if the item in the document is null or overflows. -/
theorem exists_frame_of_parse? {text : String} {d : ResultDocument}
    (h : ResultDocument.parse? text = some d)
    (htakes : ∀ vs ∈ d.rows, Column.TakesRow d.columns vs) :
    ∃ c f, MemoryCursor.ofDocument d = .ok c ∧ decodeMemory c .standard .skip = .ok f ∧
      ∀ (i : ℕ) (column : Column) (position : ℕ), d.standing[i]? = some (column, position) →
        f.toJson.tree.columnName? i = some column.name ∧
          ∀ (row : ℕ) (vs : List Json.Value), d.rows[row]? = some vs →
            ∃ item cell, vs[position]? = some item ∧ f.toJson.tree.cell? i row = some cell ∧
              (cell = .null ↔ item = .null ∨ item.Overflows column.wireType) := by
  obtain ⟨c, hload⟩ : ∃ c, MemoryCursor.ofDocument d = .ok c := by
    have hreading := ResultDocument.reading_of_parse? h
    generalize MemoryCursor.ofDocument d = loaded at hreading ⊢
    cases hreading with
    | ok _ _ => exact ⟨_, rfl⟩
    | error first => exact absurd htakes first.not_takes
  obtain ⟨rows, hrows, rfl⟩ := MemoryCursor.ofDocument_eq_ok.mp hload
  obtain ⟨f, hyields, hdecode⟩ := exists_frame_yields hrows
  refine ⟨_, f, hload, hdecode .skip (plan_skip _ _), ?_⟩
  intro i column position hstanding
  exact nulls_of_yields (ResultDocument.isHeld_of_parse? h) hyields hstanding

/-- **What is null in the text.** A document that is loaded decodes to a frame under the policy to
skip, and both texts of the frame read back as one tree. In that tree are the columns of standard
types, by their names; a cell of it is null exactly if the item in the document is null, or is a
double that overflows in a column of singles. -/
theorem decodeMemory_written {d : ResultDocument} (hheld : d.IsHeld) {c : MemoryCursor}
    (h : MemoryCursor.ofDocument d = .ok c) :
    ∃ f t, decodeMemory c .standard .skip = .ok f ∧
      Json.Tree.parse? f.toJson.compact = some t ∧ Json.Tree.parse? f.toJson.indented = some t ∧
      ∀ (i : ℕ) (column : Column) (position : ℕ), d.standing[i]? = some (column, position) →
        t.columnName? i = some column.name ∧
          ∀ (row : ℕ) (vs : List Json.Value), d.rows[row]? = some vs →
            ∃ item cell, vs[position]? = some item ∧ t.cell? i row = some cell ∧
              (cell = .null ↔ item = .null ∨ item.Overflows column.wireType) := by
  obtain ⟨rows, hrows, rfl⟩ := MemoryCursor.ofDocument_eq_ok.mp h
  obtain ⟨f, hyields, hdecode⟩ := exists_frame_yields hrows
  refine ⟨f, f.toJson.tree, hdecode .skip (plan_skip _ _), Json.parse?_compact _,
    Json.parse?_indented _, ?_⟩
  intro i column position hstanding
  exact nulls_of_yields hheld hyields hstanding

/-- The double nearest to `1e39`. -/
def beyondSingles : Double := .finite false 6617444900424221 77

/-- A reader can hold that double, so that a document may have it. -/
theorem isHeld_beyondSingles : (Json.Number.double beyondSingles).IsHeld :=
  ⟨by decide, by decide, by decide⟩

/-- It is beyond the limit of the singles, and so it is narrowed to an infinite number. -/
theorem overflows_beyondSingles :
    (Json.Value.number (.double beyondSingles)).Overflows "FLOAT4" := by
  refine ⟨rfl, _, rfl, ?_⟩
  have hvalue : beyondSingles.value = 6617444900424221 * 2 ^ 77 := rfl
  rw [hvalue, limit_single]
  norm_num

/-- A document with a double that fits in a column of doubles and overflows in one of singles. -/
def precisions : ResultDocument where
  columns := [⟨"note", "VARCHAR"⟩, ⟨"wide", "FLOAT8"⟩, ⟨"narrow", "FLOAT4"⟩]
  rows := [[.null, .number (.double beyondSingles), .number (.double beyondSingles)],
    [.string "none", .null, .number (.int 3)]]

/-- One number in columns of both precisions: it is written as `null` in the one and as itself in
the other. -/
theorem decodeMemory_written_precisions :
    precisions.IsHeld ∧ ∃ c, MemoryCursor.ofDocument precisions = .ok c ∧
      ∃ f t, decodeMemory c .standard .skip = .ok f ∧
        Json.Tree.parse? f.toJson.compact = some t ∧
        Json.Tree.parse? f.toJson.indented = some t ∧
        t.cell? 0 0 ≠ some .null ∧ t.cell? 0 1 = some .null ∧ t.cell? 1 0 = some .null ∧
        t.cell? 1 1 ≠ some .null := by
  have hheld : precisions.IsHeld := by
    intro vs hvs n hn
    simp only [precisions, List.mem_cons, List.not_mem_nil, or_false] at hvs
    obtain rfl | rfl := hvs
    · simp only [List.mem_cons, reduceCtorEq, Json.Value.number.injEq, List.not_mem_nil, or_false,
        false_or, or_self] at hn
      obtain rfl := hn
      exact isHeld_beyondSingles
    · simp only [List.mem_cons, reduceCtorEq, Json.Value.number.injEq, List.not_mem_nil, or_false,
        false_or] at hn
      obtain rfl := hn
      exact ⟨by decide, by decide⟩
  have hload : MemoryCursor.ofDocument precisions = .ok (.ofRows precisions.columns
      [[none, some (.float64 beyondSingles), some (.float32 (.infinite false))],
        [some (.text "none"), none, some (.float32 (.finite false 12582912 (-22)))]]) := rfl
  obtain ⟨f, t, hdecode, hcompact, hindented, hcells⟩ := decodeMemory_written hheld hload
  obtain ⟨_, wide, ⟨⟩, hwide, hwideNull⟩ := (hcells 0 ⟨"wide", "FLOAT8"⟩ 1 rfl).2 0 _ rfl
  obtain ⟨_, missing, ⟨⟩, hmissing, hmissingNull⟩ := (hcells 0 ⟨"wide", "FLOAT8"⟩ 1 rfl).2 1 _ rfl
  obtain ⟨_, narrowed, ⟨⟩, hnarrowed, hnarrowedNull⟩ := (hcells 1 ⟨"narrow", "FLOAT4"⟩ 2 rfl).2 0 _ rfl
  obtain ⟨_, three, ⟨⟩, hthree, hthreeNull⟩ := (hcells 1 ⟨"narrow", "FLOAT4"⟩ 2 rfl).2 1 _ rfl
  obtain rfl := hmissingNull.mpr (Or.inl rfl)
  obtain rfl := hnarrowedNull.mpr (Or.inr overflows_beyondSingles)
  refine ⟨hheld, _, hload, f, t, hdecode, hcompact, hindented, ?_, hmissing, hnarrowed, ?_⟩
  · rw [hwide]
    rintro ⟨⟩
    obtain hnull | hoverflows := hwideNull.mp rfl
    · cases hnull
    · exact absurd hoverflows.1 (by decide)
  · rw [hthree]
    rintro ⟨⟩
    obtain hnull | ⟨_, _, hdouble, _⟩ := hthreeNull.mp rfl
    · cases hnull
    · cases hdouble

/-- A document with nothing but a double that overflows. -/
def overflowingSingle : ResultDocument where
  columns := [⟨"x", "FLOAT4"⟩]
  rows := [[.number (.double beyondSingles)]]

/-- What is decoded from that document. -/
def overflowedFrame : Frame where
  columns := [⟨"x", "FLOAT4", .nullableFloat32, [.float32 (.infinite false)]⟩]
  rowCount := 1
  rectangular := by decide

/-- What is null in the text need not be null in the document. -/
theorem not_decodeMemory_written_null_iff :
    ¬ ∀ (d : ResultDocument) (c : MemoryCursor) (f : Frame) (t : Json.Tree),
      d.IsHeld → MemoryCursor.ofDocument d = .ok c → decodeMemory c .standard .skip = .ok f →
      Json.Tree.parse? f.toJson.compact = some t →
      ∀ (i : ℕ) (column : Column) (position : ℕ), d.standing[i]? = some (column, position) →
        ∀ (row : ℕ) (vs : List Json.Value) (item : Json.Value), d.rows[row]? = some vs →
          vs[position]? = some item → (t.cell? i row = some .null ↔ item = .null) := by
  intro hnulls
  have hheld : overflowingSingle.IsHeld := by
    intro vs hvs n hn
    obtain rfl := List.eq_of_mem_singleton hvs
    obtain rfl := Json.Value.number.inj (List.eq_of_mem_singleton hn)
    exact isHeld_beyondSingles
  have hload : MemoryCursor.ofDocument overflowingSingle =
      .ok (.ofRows overflowingSingle.columns [[some (.float32 (.infinite false))]]) := rfl
  have hdecode : decodeMemory (.ofRows overflowingSingle.columns
      [[some (.float32 (.infinite false))]]) .standard .skip = .ok overflowedFrame := rfl
  have hcell : overflowedFrame.toJson.tree.cell? 0 0 = some .null :=
    Frame.cell?_tree (v := .float32 (.infinite false)) rfl rfl
  have hnull := hnulls _ _ _ _ hheld hload hdecode (Json.parse?_compact _) 0 ⟨"x", "FLOAT4"⟩ 0 rfl
    0 _ _ rfl rfl
  cases hnull.mp hcell

end Decode

end FrameSource
