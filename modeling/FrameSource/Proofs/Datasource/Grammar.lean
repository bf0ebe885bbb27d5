import FrameSource.Datasource.ConnectionString

/-!
# Reading parameters back

The key and value grammar in which a client library reads a connection string. Items have blanks
between them. An item is a key, an equals sign and a value; a value stands in apostrophes, where a
backslash makes the next character literal, or goes up to the next blank.

**What is written is read back** (`items?_writeAll`): parameters whose keys are words and whose bare
values are free of blanks come back in order, and every text between apostrophes comes back
character for character. Nothing is asked of such a text.

Only spaces separate items here, and a bare value goes on through anything else, a backslash
included. A client that reads more than this, such as other blanks, is not described.
-/

namespace FrameSource.Parameter

/-! ## The grammar -/

/-- The text up to the closing apostrophe, and what follows it. The next character may be literal,
after a backslash. -/
def quoted? (literal : Bool) : List Char → Option (List Char × List Char)
  | [] => none
  | c :: cs =>
    if literal then (quoted? false cs).map fun r => (c :: r.1, r.2)
    else if c = '\'' then some ([], cs)
    else if c = '\\' then quoted? true cs
    else (quoted? false cs).map fun r => (c :: r.1, r.2)

/-- A value, and what follows it. -/
def value? : List Char → Option (List Char × List Char)
  | [] => some ([], [])
  | c :: cs =>
    if c = '\'' then quoted? false cs
    else some ((c :: cs).takeWhile (· ≠ ' '), (c :: cs).dropWhile (· ≠ ' '))

/-- A character of a key. -/
def isKeyChar (c : Char) : Bool := c ≠ '=' && c ≠ ' '

/-- An item, and what follows it. -/
def item? (cs : List Char) : Option ((String × String) × List Char) :=
  let key := cs.takeWhile isKeyChar
  match cs.dropWhile isKeyChar with
  | [] => none
  | c :: rest =>
    if key ≠ [] ∧ c = '=' then
      (value? rest).map fun r => ((String.ofList key, String.ofList r.1), r.2)
    else none

/-- Whether an item may end in front of a text. -/
def isEnd (cs : List Char) : Bool :=
  cs.head?.all (· = ' ')

/-- Reading a quoted value uses up characters. This and the two lemmas below are why the reader of
items ends. -/
theorem length_quoted? {literal : Bool} {cs : List Char} {r : List Char × List Char}
    (h : quoted? literal cs = some r) : r.2.length < cs.length := by
  induction cs generalizing literal r with
  | nil => cases h
  | cons c cs ih =>
    have hkeep : ∀ {r}, (quoted? false cs).map (fun r => (c :: r.1, r.2)) = some r →
        r.2.length < (c :: cs).length := by
      intro r hr
      obtain ⟨r', hr', rfl⟩ := Option.map_eq_some_iff.mp hr
      have hlt : r'.2.length < cs.length := ih hr'
      exact Nat.lt_succ_of_lt hlt
    unfold quoted? at h
    split at h
    · exact hkeep h
    · split at h
      · cases h
        exact Nat.lt_succ_self _
      · split at h
        · exact Nat.lt_succ_of_lt (ih h)
        · exact hkeep h

theorem length_value? {cs : List Char} {r : List Char × List Char} (h : value? cs = some r) :
    r.2.length ≤ cs.length := by
  unfold value? at h
  split at h
  · cases h
    exact Nat.le_refl _
  · split at h
    · exact Nat.le_succ_of_le (Nat.le_of_lt (length_quoted? h))
    · cases h
      exact (List.dropWhile_sublist _).length_le

theorem length_item? {cs : List Char} {r : (String × String) × List Char} (h : item? cs = some r) :
    r.2.length < cs.length := by
  have hle := (List.dropWhile_sublist isKeyChar (l := cs)).length_le
  unfold item? at h
  cases hdrop : cs.dropWhile isKeyChar with
  | nil =>
    rw [hdrop] at h
    cases h
  | cons c rest =>
    rw [hdrop] at h hle
    simp only at h
    split at h
    · obtain ⟨r', hr', rfl⟩ := Option.map_eq_some_iff.mp h
      have hlt := length_value? hr'
      exact Nat.lt_of_le_of_lt hlt hle
    · cases h

/-- All items of a text. -/
def items? : List Char → Option (List (String × String))
  | [] => some []
  | c :: cs =>
    if c = ' ' then items? cs
    else
      match _h : item? (c :: cs) with
      | none => none
      | some (e, rest) => if isEnd rest then (items? rest).map (e :: ·) else none
termination_by cs => cs.length
decreasing_by
  · exact Nat.lt_succ_self _
  · exact length_item? ‹_›

theorem items?_nil : items? [] = some [] := by
  rw [items?]

/-- Any number of blanks may stand between items, in front of them and behind them. -/
theorem items?_blank (cs : List Char) : items? (' ' :: cs) = items? cs := by
  rw [items?, if_pos rfl]

/-- An item is read if a blank or the end follows it, and the rest is read by itself. -/
theorem items?_item {cs rest : List Char} {e : String × String} (hc : cs.head? ≠ some ' ')
    (h : item? cs = some (e, rest)) (hend : isEnd rest = true) :
    items? cs = (items? rest).map (e :: ·) := by
  cases cs with
  | nil => cases h
  | cons c cs =>
    have hne : c ≠ ' ' := fun heq => hc (congrArg some heq)
    rw [items?, if_neg hne]
    split
    · next hnone => rw [h] at hnone; cases hnone
    · next e' rest' hsome =>
      rw [h] at hsome
      cases hsome
      rw [if_pos hend]

/-! ## Values -/

/-- A character as it is escaped. -/
def escapeChar (c : Char) : List Char :=
  if c = '\\' ∨ c = '\'' then ['\\', c] else [c]

/-- Of the two replacements each character sees only one, so that escaping goes character by
character. -/
theorem escape_eq_flatMap (text : List Char) : escape text = text.flatMap escapeChar := by
  rw [escape, replace, replace, List.flatMap_assoc]
  congr 1
  funext c
  by_cases hbackslash : c = '\\'
  · subst hbackslash
    rfl
  · by_cases hapostrophe : c = '\''
    · subst hapostrophe
      rfl
    · simp [escapeChar, hbackslash, hapostrophe]

/-- A text that was escaped ends at the apostrophe after it, and is read as it was. -/
theorem quoted?_escaped (text rest : List Char) :
    quoted? false (escape text ++ '\'' :: rest) = some (text, rest) := by
  rw [escape_eq_flatMap]
  induction text with
  | nil => rfl
  | cons c text ih =>
    rw [List.flatMap_cons, List.append_assoc]
    by_cases hescape : c = '\\' ∨ c = '\''
    · rw [show escapeChar c = ['\\', c] from if_pos hescape]
      show (quoted? false (text.flatMap escapeChar ++ '\'' :: rest)).map _ = _
      rw [ih]
      rfl
    · rw [show escapeChar c = [c] from if_neg hescape]
      obtain ⟨hbackslash, hapostrophe⟩ := not_or.mp hescape
      simp only [List.cons_append, List.nil_append, quoted?, Bool.false_eq_true, if_false,
        hapostrophe, hbackslash, ih]
      rfl

/-- The text of a value. -/
def textOf : ParameterValue → String
  | .quoted s => s
  | .bare s => s

/-- What a value must be for the grammar: a bare one is free of blanks, and starts with no
apostrophe. -/
def Legible : ParameterValue → Prop
  | .quoted _ => True
  | .bare s => s.toList.all (· ≠ ' ') = true ∧ s.toList.head? ≠ some '\''

theorem isEnd_cases {cs : List Char} (h : isEnd cs = true) :
    cs = [] ∨ ∃ rest, cs = ' ' :: rest := by
  cases cs with
  | nil => exact Or.inl rfl
  | cons c rest =>
    have hc : c = ' ' := by simpa [isEnd] using h
    exact Or.inr ⟨rest, by rw [hc]⟩

/-- A text that is free of blanks goes up to the next one. -/
theorem value?_bare {text rest : List Char} (hblank : text.all (· ≠ ' ') = true)
    (hhead : text.head? ≠ some '\'') (hend : isEnd rest = true) :
    value? (text ++ rest) = some (text, rest) := by
  have hall := List.all_eq_true.mp hblank
  have hstop : rest.takeWhile (· ≠ ' ') = [] ∧ rest.dropWhile (· ≠ ' ') = rest := by
    rcases isEnd_cases hend with rfl | ⟨rest, rfl⟩
    · exact ⟨rfl, rfl⟩
    · exact ⟨rfl, rfl⟩
  cases text with
  | nil =>
    rcases isEnd_cases hend with rfl | ⟨rest, rfl⟩
    · rfl
    · rfl
  | cons c text =>
    have hc : c ≠ '\'' := fun heq => hhead (congrArg some heq)
    rw [List.cons_append, value?, if_neg hc, ← List.cons_append,
      List.takeWhile_append_of_pos hall, List.dropWhile_append_of_pos hall, hstop.1, hstop.2,
      List.append_nil]

/-- A value is read back in front of a text where an item may end. -/
theorem value?_writeValue {v : ParameterValue} (h : Legible v) {rest : List Char}
    (hend : isEnd rest = true) :
    value? (writeValue v ++ rest) = some ((textOf v).toList, rest) := by
  cases v with
  | quoted s =>
    show quoted? false (escape s.toList ++ ['\''] ++ rest) = _
    rw [List.append_assoc]
    exact quoted?_escaped s.toList rest
  | bare s =>
    obtain ⟨hblank, hhead⟩ := h
    exact value?_bare hblank hhead hend

/-! ## Items -/

/-- Whether a word may be a key. -/
def isKey (key : String) : Bool :=
  !key.toList.isEmpty && key.toList.all isKeyChar

/-- A key has at least one character, and none that would end it. -/
theorem isKey_iff {key : String} :
    isKey key = true ↔ key.toList ≠ [] ∧ ∀ c ∈ key.toList, isKeyChar c = true := by
  simp only [isKey, Bool.and_eq_true, Bool.not_eq_true', List.isEmpty_eq_false_iff,
    List.all_eq_true]

/-- A parameter that the grammar can read. -/
structure Readable (p : Parameter) : Prop where
  key : isKey p.key = true
  value : Legible p.value

/-- The key of a parameter and the text of its value. -/
def entry (p : Parameter) : String × String := (p.key, textOf p.value)

theorem Readable.key_ne_nil {p : Parameter} (h : p.Readable) : p.key.toList ≠ [] :=
  (isKey_iff.mp h.key).1

theorem Readable.isKeyChar {p : Parameter} (h : p.Readable) :
    ∀ c ∈ p.key.toList, isKeyChar c = true :=
  (isKey_iff.mp h.key).2

theorem write_append (p : Parameter) (rest : List Char) :
    p.write ++ rest = p.key.toList ++ '=' :: (writeValue p.value ++ rest) := by
  simp only [write, List.append_assoc, List.cons_append, List.nil_append]

/-- A written item does not begin with a blank, so none is skipped in front of it. -/
theorem head?_write_append {p : Parameter} (h : p.Readable) (rest : List Char) :
    (p.write ++ rest).head? ≠ some ' ' := by
  rw [write_append]
  cases hkey : p.key.toList with
  | nil => exact absurd hkey h.key_ne_nil
  | cons c cs =>
    have hc := h.isKeyChar c (by rw [hkey]; exact List.mem_cons_self)
    intro heq
    cases heq
    cases hc

/-- An item is read back from its writing, and the reader stops right behind it. -/
theorem item?_write {p : Parameter} (h : p.Readable) {rest : List Char} (hend : isEnd rest = true) :
    item? (p.write ++ rest) = some (p.entry, rest) := by
  have htake : (p.write ++ rest).takeWhile isKeyChar = p.key.toList := by
    rw [write_append, List.takeWhile_append_of_pos h.isKeyChar]
    exact List.append_nil _
  have hdrop : (p.write ++ rest).dropWhile isKeyChar = '=' :: (writeValue p.value ++ rest) := by
    rw [write_append, List.dropWhile_append_of_pos h.isKeyChar]
    rfl
  simp only [item?, htake, hdrop, h.key_ne_nil, value?_writeValue h.value hend, ne_eq,
    not_false_eq_true, and_self, if_true, Option.map_some, String.ofList_toList]
  rfl

/-- **Parameters are read back as they were written**: in order, with their keys and values, and
with nothing else. -/
theorem items?_writeAll {ps : List Parameter} (h : ∀ p ∈ ps, p.Readable) :
    items? (writeAll ps) = some (ps.map entry) := by
  induction ps with
  | nil => exact items?_nil
  | cons p ps ih =>
    have hp := h p List.mem_cons_self
    have hps := ih fun q hq => h q (List.mem_cons_of_mem p hq)
    cases ps with
    | nil =>
      have hitem := item?_write hp (show isEnd [] = true from rfl)
      have hhead := head?_write_append hp []
      rw [List.append_nil] at hitem hhead
      show items? p.write = _
      rw [items?_item hhead hitem rfl, items?_nil]
      rfl
    | cons q ps =>
      have hend : isEnd (' ' :: writeAll (q :: ps)) = true := rfl
      show items? (p.write ++ [' '] ++ writeAll (q :: ps)) = _
      rw [List.append_assoc, List.singleton_append,
        items?_item (head?_write_append hp _) (item?_write hp hend) hend, items?_blank, hps]
      rfl

end FrameSource.Parameter
