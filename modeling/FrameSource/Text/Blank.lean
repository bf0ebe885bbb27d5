/-!
# Blank characters

White space in the sense of Unicode's `White_Space` property, and the two ways the library uses it:
trimming a text at both ends and asking whether a text is blank.
-/

namespace FrameSource.Text

/-- The code points with the `White_Space` property, as closed ranges in ascending order. -/
def blankRanges : List (Nat × Nat) :=
  [(0x09, 0x0d), (0x20, 0x20), (0x85, 0x85), (0xa0, 0xa0), (0x1680, 0x1680), (0x2000, 0x200a),
   (0x2028, 0x2029), (0x202f, 0x202f), (0x205f, 0x205f), (0x3000, 0x3000)]

/-- Whether a code point lies in one of the closed ranges. -/
def inRanges (ranges : List (Nat × Nat)) (n : Nat) : Bool :=
  ranges.any fun r => r.1 ≤ n && n ≤ r.2

/-- A blank character is one with the `White_Space` property. -/
def isBlank (c : Char) : Bool :=
  inRanges blankRanges c.toNat

/-- A text is blank when it has no other characters than blank ones; the empty text is blank. -/
def allBlank (cs : List Char) : Bool :=
  cs.all isBlank

/-- A text without its leading blanks. -/
def trimStart (cs : List Char) : List Char :=
  cs.dropWhile isBlank

/-- A text without its trailing blanks. -/
def trimEnd (cs : List Char) : List Char :=
  (cs.reverse.dropWhile isBlank).reverse

/-- A text without the blanks at either end. -/
def trim (cs : List Char) : List Char :=
  trimEnd (trimStart cs)

/-- `allBlank` on strings. -/
def isBlankText (s : String) : Bool :=
  allBlank s.toList

/-! ## What trimming does -/

theorem trimStart_eq_self {cs : List Char} (h : ∀ c ∈ cs.head?, isBlank c = false) :
    trimStart cs = cs := by
  cases cs with
  | nil => rfl
  | cons c r => simp [trimStart, h c (by simp)]

theorem trimStart_append {b cs : List Char} (h : allBlank b = true) :
    trimStart (b ++ cs) = trimStart cs := by
  induction b with
  | nil => rfl
  | cons c r ih =>
    simp only [allBlank, List.all_cons, Bool.and_eq_true] at h
    have := ih h.2
    simp_all [trimStart]

/-- What the leading trim leaves is empty or starts with a character that is not blank. -/
theorem isBlank_head_trimStart {cs : List Char} :
    ∀ c ∈ (trimStart cs).head?, isBlank c = false := by
  induction cs with
  | nil => simp [trimStart]
  | cons c r ih =>
    by_cases hc : isBlank c
    · simpa [trimStart, List.dropWhile_cons, hc] using ih
    · simp [trimStart, hc]

end FrameSource.Text
