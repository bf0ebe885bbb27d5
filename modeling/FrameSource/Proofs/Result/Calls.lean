import FrameSource.Proofs.Result.Run

/-!
# The calls that a decoding makes

A cursor may be anything: a step function over states of its own, which writes to any of the targets
or to none, puts cells of any shape into them, and may even put other targets in their places. Only
that it ends is asked of it. What a decoding asks of such a cursor can be read off the answers that it
has given: `Cursor.logged` keeps them.

**The answers explain the result** (`decode_calls`). There is one answer `true` for each row, up to
the last answer. The last one says that there are no more rows, or is the error that is returned, or
is for the row that a converter refuses; nothing is asked after it. A refused plan asks nothing.
-/

namespace FrameSource

/-- The cursor that keeps its answers beside its state. -/
def Cursor.logged {σ : Type} (cursor : Cursor σ) :
    Cursor (σ × List (Except CursorError Bool)) where
  columns := cursor.columns
  fetch state targets :=
    let fetch := cursor.fetch state.1 targets
    ⟨fetch.writes, fetch.answer, fetch.state, state.2 ++ [fetch.answer]⟩

namespace Decode

variable {σ : Type} {cursor : Cursor σ} {slots : List Slot} {s : Standing slots σ}
  {state final : σ} {row : Nat} {rows : List (List Value)} {ending : Except DecodeError Unit}

/-! ## The answers of a run -/

/-- The last answer of a cursor in a run that ends so. -/
def lastAnswer : Except DecodeError Unit → Except CursorError Bool
  | .ok () => .ok false
  | .error (.cursor cause) => .error cause
  | .error _ => .ok true

/-- The answers of a cursor in a run. -/
def answers (rows : List (List Value)) (ending : Except DecodeError Unit) :
    List (Except CursorError Bool) :=
  List.replicate rows.length (.ok true) ++ [lastAnswer ending]

/-- A run ends well, or in an error of the cursor, or in an error of a converter in the row after
those that were collected. -/
theorem Run.ending_cases (h : Run cursor s row rows ending final) :
    ending = .ok () ∨ (∃ cause, ending = .error (.cursor cause)) ∨
      ∃ column cause, ending = .error (.convert column (row + rows.length) cause) := by
  induction h with
  | exhausted _ => exact Or.inl rfl
  | failed _ => exact Or.inr (Or.inl ⟨_, rfl⟩)
  | @rejected s _ _ _ converted =>
    obtain ⟨column, cause, rfl⟩ := eq_of_convertRow_error (s.length_scan cursor) converted
    exact Or.inr (Or.inr ⟨column, cause, rfl⟩)
  | @collected _ _ row _ rows _ _ _ _ ih =>
    rw [List.length_cons, Nat.add_comm rows.length 1, ← Nat.add_assoc]
    exact ih

/-- The same place in the loop, with a log beside the state of the cursor. -/
def Standing.logging (s : Standing slots σ) (log : List (Except CursorError Bool)) :
    Standing slots (σ × List (Except CursorError Bool)) :=
  ⟨s.targets, (s.state, log), s.aligned⟩

/-- A fetch of the logged cursor leaves the state of the cursor's own, and its answer. -/
theorem state_fetch_logged (log : List (Except CursorError Bool)) {a : Except CursorError Bool}
    (h : (s.fetch cursor).answer = a) :
    ((s.logging log).fetch cursor.logged).state = ((s.fetch cursor).state, log ++ [a]) := by
  rw [← h]
  rfl

/-- The logged cursor takes the loop to the same place, and has one answer more. -/
theorem next_logged (log : List (Except CursorError Bool)) {a : Except CursorError Bool}
    (h : (s.fetch cursor).answer = a) :
    (s.logging log).next cursor.logged = (s.next cursor).logging (log ++ [a]) := by
  rw [← h]
  rfl

/-- In a run the logged cursor does what the cursor does, and keeps one answer for each row and the
last one. -/
theorem Run.logged (h : Run cursor s row rows ending final)
    (log : List (Except CursorError Bool)) :
    Run cursor.logged (s.logging log) row rows ending (final, log ++ answers rows ending) := by
  induction h generalizing log with
  | exhausted answer =>
    show Run _ _ _ _ _ (_, log ++ [.ok false])
    rw [← state_fetch_logged log answer]
    exact .exhausted answer
  | @failed _ _ cause answer =>
    show Run _ _ _ _ _ (_, log ++ [.error cause])
    rw [← state_fetch_logged log answer]
    exact .failed answer
  | @rejected s _ _ answer converted =>
    obtain ⟨column, cause, rfl⟩ := eq_of_convertRow_error (s.length_scan cursor) converted
    show Run _ _ _ _ _ (_, log ++ [.ok true])
    rw [← state_fetch_logged log answer]
    exact .rejected answer converted
  | @collected s final row values rows ending answer converted _ ih =>
    refine .collected answer converted ?_
    rw [next_logged log answer]
    show Run _ _ _ _ _ (_, log ++ .ok true :: answers rows ending)
    rw [List.append_cons log (.ok true) (answers rows ending)]
    exact ih _

/-- No converter refuses a row that a run collects. -/
theorem Run.accepted (h : Run cursor s row rows ending final) {n : Nat} (hn : n < rows.length) :
    ∀ k ∈ kept slots, ∃ v, k.Reads ((s.after cursor n).scan cursor) v := by
  intro k hk
  obtain ⟨values, _, hvalues⟩ := forall₂_exists_right h.reads (s.mem_scans cursor hn)
  obtain ⟨v, _, hv⟩ := forall₂_exists_right hvalues hk
  exact ⟨v, hv⟩

/-! ## The answers explain the result -/

/-- What the answers of a cursor are when a decoding has a result. A frame has as many rows as there
were answers `true`, and every column has a value for each of them. An unknown type is found before
anything is asked; an error of the cursor is its last answer; a converter refuses a cell of the row
that was answered last. The columns of a frame never have different sizes. -/
def Explained : Except DecodeError Frame → List (Except CursorError Bool) → Prop
  | .ok f, answers => answers = List.replicate f.rowCount (.ok true) ++ [.ok false] ∧
      ∀ c ∈ f.columns, c.values.length = f.rowCount
  | .error (.unknownType _ _), answers => answers = []
  | .error (.cursor cause), answers =>
      ∃ rows, answers = List.replicate rows (.ok true) ++ [.error cause]
  | .error (.convert _ row _), answers => answers = List.replicate (row + 1) (.ok true)
  | .error (.rowCountMismatch _ _ _), _ => False

/-- The answers of a run explain what is made of its rows. -/
theorem Run.explained (h : Run cursor s 0 rows ending final) :
    Explained (ending >>= fun _ => assemble slots rows) (answers rows ending) := by
  rcases h.ending_cases with rfl | ⟨cause, rfl⟩ | ⟨column, cause, rfl⟩
  · obtain ⟨f, hf, hrows, hcolumns⟩ := h.assemble_eq
    show Explained (assemble slots rows) _
    rw [hf]
    refine ⟨hrows ▸ rfl, ?_⟩
    intro c hc
    obtain ⟨k, _, hfills⟩ := forall₂_exists_left hcolumns hc
    calc c.values.length
        = (s.scans cursor rows.length).length := hfills.values.length_eq.symm
      _ = rows.length := h.reads.length_eq
      _ = f.rowCount := hrows.symm
  · exact ⟨rows.length, rfl⟩
  · show answers rows _ = List.replicate (0 + rows.length + 1) (.ok true)
    rw [Nat.zero_add, List.replicate_succ']
    rfl

/-- **The calls of a decoding.** The decoding of a cursor that ends has one result, for every amount
of fuel from some amount on, and so has the decoding of the logged cursor; the answers that it
leaves explain the result, and after each but the last of them every kept column was converted. -/
theorem decode_calls {registry : ConverterRegistry} (policy : UnknownColumnPolicy)
    (ends : Ends cursor (slotsOf registry cursor.columns) state) :
    ∃ needed result final answers,
      (∀ fuel, decodeWithin fuel cursor state registry policy =
        if needed ≤ fuel then some result else none) ∧
      (∀ fuel, decodeThrough fuel cursor.logged (state, []) registry policy =
        if needed ≤ fuel then some (result, final, answers) else none) ∧
      Explained result answers ∧
      ∀ n, n + 1 < answers.length → ∀ k ∈ kept (slotsOf registry cursor.columns),
        ∃ v, k.Reads
          (((Standing.start (slotsOf registry cursor.columns) state).after cursor n).scan cursor)
          v := by
  -- A refused plan needs no call, and no fuel either.
  rcases plan_cases registry policy cursor.columns with ⟨column, hplan⟩ | hplan
  · refine ⟨0, .error (.unknownType column.name column.wireType), state, [], ?_, ?_, rfl, ?_⟩
    · intro fuel
      rw [decodeWithin_of_refused hplan, if_pos (Nat.zero_le fuel)]
    · intro fuel
      have hlogged : plan registry policy cursor.logged.columns = _ := hplan
      rw [decodeThrough_of_refused hlogged, if_pos (Nat.zero_le fuel)]
    · intro n hn
      cases hn
  · obtain ⟨rows, ending, final, hrun⟩ := exists_run ends
    refine ⟨rows.length + 1, ending >>= fun _ => assemble _ rows, final, answers rows ending,
      ?_, ?_, hrun.explained, ?_⟩
    · intro fuel
      exact hrun.decodeWithin_eq hplan fuel
    · intro fuel
      exact (hrun.logged []).decodeThrough_eq hplan fuel
    · intro n hn
      apply hrun.accepted
      rw [answers, List.length_append, List.length_replicate] at hn
      exact Nat.lt_of_succ_lt_succ hn

/-- A cursor over numbers, with a column of an unknown type. It sets all cells, then it sets the second
one only and puts a target of another shape in the place of the third, and then it has no more
rows. -/
def reluctant : Cursor Nat where
  columns := [⟨"count", "INT2"⟩, ⟨"id", "UUID"⟩, ⟨"done", "BOOL"⟩]
  fetch state targets :=
    match state with
    | 0 => ⟨ScanTarget.setEach targets
          [some (.direct (.int16 7)), some (.nullable none), some (.direct (.bool true))],
        .ok true, 1⟩
    | 1 => ⟨[none, some ⟨.direct, .direct (.bool false)⟩, some (.empty .nullable)], .ok true, 2⟩
    | _ => ⟨ScanTarget.setEach targets [none, none, some (.direct (.bool true))], .ok false, 3⟩

/-- The loop calls this cursor three times, the last time to be told that there are no more rows,
and the result is explained by the three answers. With less fuel there is none. -/
theorem decode_calls_reluctant :
    Ends reluctant (slotsOf .standard reluctant.columns) 0 ∧
    ∃ needed result final answers,
      (∀ fuel, decodeWithin fuel reluctant 0 .standard .skip =
        if needed ≤ fuel then some result else none) ∧
      (∀ fuel, decodeThrough fuel reluctant.logged (0, []) .standard .skip =
        if needed ≤ fuel then some (result, final, answers) else none) ∧
      Explained result answers ∧ answers = [.ok true, .ok true, .ok false] := by
  have ends : Ends reluctant (slotsOf .standard reluctant.columns) 0 := ⟨2, by nofun⟩
  obtain ⟨needed, result, final, answers, hresult, hanswers, hexplained, _⟩ :=
    decode_calls .skip ends
  refine ⟨ends, needed, result, final, answers, hresult, hanswers, hexplained, ?_⟩
  have hthree := hanswers 3
  have hrun : (decodeThrough 3 reluctant.logged (0, []) .standard .skip).map (·.2.2) =
      some [.ok true, .ok true, .ok false] := rfl
  split at hthree
  · rw [hthree] at hrun
    exact Option.some.inj hrun
  · rw [hthree] at hrun
    cases hrun

end Decode

end FrameSource
