import FrameSource.Text.Blank
import FrameSource.Text.Decimal
import Mathlib.Data.List.Basic
import Mathlib.Data.List.TakeWhile
import Mathlib.Tactic.Ring

/-!
# Numerals among blanks

A text is trimmed before a number is read from it. What is trimmed is the text between the blanks
that it starts and ends with (`Trimmed`, `Trimmed.trim_eq`); and no numeral has a blank in it, so
that the blanks around a numeral are what trimming takes away.

Digits that follow a number shift it and fill the places (`exists_ofDigitChars`), from which it
follows that a number is written without zeros in front (`head?_decimal_ne_zero`).
-/

namespace FrameSource.Text

variable {cs b₁ b₂ : List Char}

/-- Blanks around a text are trimmed away, and those inside of it are not. -/
theorem trim_between (h₁ : allBlank b₁ = true) (h₂ : allBlank b₂ = true) (hne : cs ≠ [])
    (hfirst : ∀ c ∈ cs.head?, isBlank c = false) (hlast : ∀ c ∈ cs.getLast?, isBlank c = false) :
    trim (b₁ ++ cs ++ b₂) = cs := by
  have hstart : trimStart (b₁ ++ (cs ++ b₂)) = cs ++ b₂ := by
    rw [trimStart_append h₁]
    apply trimStart_eq_self
    rwa [List.head?_append_of_ne_nil cs hne]
  have hend : trimStart (b₂.reverse ++ cs.reverse) = cs.reverse := by
    rw [trimStart_append (by rwa [allBlank, List.all_reverse])]
    apply trimStart_eq_self
    rwa [List.head?_reverse]
  show (trimStart (trimStart (b₁ ++ cs ++ b₂)).reverse).reverse = cs
  rw [List.append_assoc, hstart, List.reverse_append, hend, List.reverse_reverse]

/-- A text that has no blanks is what is left after trimming the blanks around it. -/
theorem trim_append (h₁ : allBlank b₁ = true) (h₂ : allBlank b₂ = true) (hne : cs ≠ [])
    (h : ∀ c ∈ cs, isBlank c = false) : trim (b₁ ++ cs ++ b₂) = cs :=
  trim_between h₁ h₂ hne (fun c hc => h c (List.mem_of_mem_head? hc))
    (fun c hc => h c (List.mem_of_mem_getLast? hc))

theorem exists_eq_append_trim (cs : List Char) :
    ∃ b₁ b₂, allBlank b₁ = true ∧ allBlank b₂ = true ∧ cs = b₁ ++ trim cs ++ b₂ := by
  refine ⟨cs.takeWhile isBlank, ((trimStart cs).reverse.takeWhile isBlank).reverse, ?_, ?_, ?_⟩
  · exact List.all_takeWhile
  · rw [allBlank, List.all_reverse]
    exact List.all_takeWhile
  · have hend : trim cs ++ ((trimStart cs).reverse.takeWhile isBlank).reverse = trimStart cs := by
      show ((trimStart cs).reverse.dropWhile isBlank).reverse ++ _ = _
      rw [← List.reverse_append, List.takeWhile_append_dropWhile, List.reverse_reverse]
    rw [List.append_assoc, hend]
    exact List.takeWhile_append_dropWhile.symm

theorem not_mem_of_allBlank {c : Char} (h : allBlank cs = true) (hc : isBlank c = false) : c ∉ cs :=
  fun hmem => Bool.false_ne_true (hc.symm.trans (List.all_eq_true.mp h c hmem))

/-- A text that neither starts nor ends with a blank. The empty text is one. -/
structure Trimmed (cs : List Char) : Prop where
  first : ∀ c ∈ cs.head?, isBlank c = false
  last : ∀ c ∈ cs.getLast?, isBlank c = false

/-- What is left has no blank at either end, though it may have some inside. -/
theorem trimmed_trim (cs : List Char) : Trimmed (trim cs) where
  first c hc := by
    have hkept : trim cs <+: trimStart cs := by
      have hreverse := List.reverse_prefix.mpr
        (List.dropWhile_suffix (l := (trimStart cs).reverse) isBlank)
      rwa [List.reverse_reverse] at hreverse
    obtain ⟨after, hafter⟩ := hkept
    have hhead : c ∈ (trimStart cs).head? := by
      rw [← hafter, List.head?_append, Option.mem_def.mp hc]
      rfl
    exact isBlank_head_trimStart c hhead
  last c hc := by
    rw [trim, trimEnd, List.getLast?_reverse] at hc
    exact isBlank_head_trimStart c hc

/-- Nothing is left of a text of blanks, and something of any other. -/
theorem trim_eq_nil_iff : trim cs = [] ↔ allBlank cs = true := by
  constructor
  · intro h
    obtain ⟨before, after, hbefore, hafter, hcs⟩ := exists_eq_append_trim cs
    rw [hcs, h, List.append_nil, allBlank, List.all_append, Bool.and_eq_true]
    exact ⟨hbefore, hafter⟩
  · intro h
    have hstart : trimStart cs = [] := List.dropWhile_eq_nil_iff.mpr (List.all_eq_true.mp h)
    rw [trim, hstart]
    rfl

/-- `trim_between` for texts that may be empty. -/
theorem Trimmed.trim_eq (h : Trimmed cs) (h₁ : allBlank b₁ = true) (h₂ : allBlank b₂ = true) :
    trim (b₁ ++ cs ++ b₂) = cs := by
  by_cases hnil : cs = []
  · subst hnil
    rw [trim_eq_nil_iff, List.append_nil, allBlank, List.all_append, Bool.and_eq_true]
    exact ⟨h₁, h₂⟩
  · exact trim_between h₁ h₂ hnil h.first h.last

theorem isDigit_iff {c : Char} : isDigit c = true ↔ 48 ≤ c.toNat ∧ c.toNat ≤ 57 := by
  simp [isDigit, Char.isDigit, UInt32.le_iff_toNat_le]

theorem isBlank_of_isDigit {c : Char} (h : isDigit c = true) : isBlank c = false := by
  have hrange := isDigit_iff.mp h
  simp [isBlank, inRanges, blankRanges]
  omega

/-- A natural is spelled by digits, at least one and with any number of leading zeros. -/
theorem readNat?_eq_some_iff {n : Nat} :
    readNat? cs = some n ↔ cs ≠ [] ∧ (∀ c ∈ cs, isDigit c = true) ∧ natOfDigits cs = n := by
  simp only [readNat?, List.all_eq_true]
  split
  · next h => rw [Option.some.injEq, ← and_assoc, and_iff_right h]
  · next h =>
    constructor
    · intro hread
      cases hread
    · rintro ⟨hne, hdigits, _⟩
      exact absurd ⟨hne, hdigits⟩ h

/-- Digits in front of something else are what is taken off the front. -/
theorem takeWhile_isDigit_append {digits rest : List Char}
    (hdigits : ∀ c ∈ digits, isDigit c = true) (hrest : ∀ c ∈ rest.head?, isDigit c = false) :
    (digits ++ rest).takeWhile isDigit = digits ∧ (digits ++ rest).dropWhile isDigit = rest := by
  rw [List.takeWhile_append_of_pos hdigits, List.dropWhile_append_of_pos hdigits]
  cases rest with
  | nil => exact ⟨List.append_nil digits, rfl⟩
  | cons c rest =>
    have hc : isDigit c = false := hrest c rfl
    rw [List.takeWhile_cons, List.dropWhile_cons, hc]
    exact ⟨List.append_nil digits, rfl⟩

/-- Digits shift the number before them to the left and fill the places. -/
theorem exists_ofDigitChars {digits : List Char} (h : ∀ c ∈ digits, isDigit c = true) (n : Nat) :
    ∃ r < 10 ^ digits.length, Nat.ofDigitChars 10 digits n = n * 10 ^ digits.length + r := by
  induction digits generalizing n with
  | nil => exact ⟨0, Nat.one_pos, by simp⟩
  | cons c digits ih =>
    obtain ⟨r, hr, hvalue⟩ := ih (fun d hd => h d (List.mem_cons_of_mem c hd))
      (10 * n + (c.toNat - '0'.toNat))
    have hc : c.toNat - '0'.toNat < 10 := by
      have hrange := isDigit_iff.mp (h c List.mem_cons_self)
      have hzero : '0'.toNat = 48 := rfl
      omega
    refine ⟨(c.toNat - '0'.toNat) * 10 ^ digits.length + r, ?_, ?_⟩
    · calc (c.toNat - '0'.toNat) * 10 ^ digits.length + r
          < (c.toNat - '0'.toNat + 1) * 10 ^ digits.length := by rw [Nat.succ_mul]; omega
        _ ≤ 10 * 10 ^ digits.length := Nat.mul_le_mul_right _ hc
        _ = 10 ^ (c :: digits).length := by rw [List.length_cons, pow_succ, Nat.mul_comm]
    · rw [Nat.ofDigitChars_cons, hvalue, List.length_cons, pow_succ]
      ring

/-- The decimal digits of a number start with zero only if it is zero. -/
theorem head?_decimal_ne_zero {n : Nat} (h : 0 < n) : (decimal n).head? ≠ some '0' := by
  intro hhead
  obtain ⟨ds, hds⟩ := List.head?_eq_some_iff.mp hhead
  have hdigits : ∀ c ∈ ds, isDigit c = true := fun c hc =>
    List.all_eq_true.mp (all_isDigit_decimal n) c (hds ▸ List.mem_cons_of_mem _ hc)
  -- After a zero there are too few digits for the number.
  obtain ⟨r, hr, hvalue⟩ := exists_ofDigitChars hdigits 0
  have hlt : n < 10 ^ ds.length := by
    rw [Nat.zero_mul, Nat.zero_add] at hvalue
    rw [← natOfDigits_decimal n, natOfDigits, hds, Nat.ofDigitChars_cons]
    exact hvalue ▸ hr
  have hlength : (decimal n).length = ds.length + 1 := by rw [hds, List.length_cons]
  obtain hzero | hpos := Nat.eq_zero_or_pos ds.length
  · rw [hzero, Nat.pow_zero] at hlt
    omega
  · have hle : (decimal n).length ≤ ds.length :=
      (Nat.length_toDigits_le_iff (by decide) hpos).mpr hlt
    omega

theorem inInt64_iff {n : Int} : inInt64 n = true ↔ -2 ^ 63 ≤ n ∧ n < 2 ^ 63 := by
  have hmin : int64Min = -2 ^ 63 := rfl
  have hmax : int64Max = 2 ^ 63 - 1 := rfl
  simp [inInt64, hmin, hmax]
  omega

/-- A numeral: digits, and one sign before them or none. -/
inductive SpellsInt : List Char → Int → Prop
  | unsigned {digits : List Char} (nonempty : digits ≠ [])
      (isDigits : ∀ c ∈ digits, isDigit c = true) : SpellsInt digits (natOfDigits digits)
  | plus {digits : List Char} (nonempty : digits ≠ [])
      (isDigits : ∀ c ∈ digits, isDigit c = true) : SpellsInt ('+' :: digits) (natOfDigits digits)
  | minus {digits : List Char} (nonempty : digits ≠ [])
      (isDigits : ∀ c ∈ digits, isDigit c = true) : SpellsInt ('-' :: digits) (-natOfDigits digits)

/-- The reader of integers accepts the spellings of the relation and no others, a plus sign among
them. -/
theorem readInt?_eq_some_iff {n : Int} : readInt? cs = some n ↔ SpellsInt cs n := by
  constructor
  · intro h
    unfold readInt? at h
    split at h <;> obtain ⟨_, hlift, rfl⟩ := Option.map_eq_some_iff.mp h <;>
      obtain ⟨k, hk, hcast⟩ := Option.bind_eq_some_iff.mp hlift <;>
      obtain ⟨hne, hdigits, rfl⟩ := readNat?_eq_some_iff.mp hk <;> cases hcast
    · exact .minus hne hdigits
    · exact .plus hne hdigits
    · exact .unsigned hne hdigits
  · rintro (⟨hne, hdigits⟩ | ⟨hne, hdigits⟩ | ⟨hne, hdigits⟩)
    · have hread : readNat? cs = some (natOfDigits cs) :=
        readNat?_eq_some_iff.mpr ⟨hne, hdigits, rfl⟩
      unfold readInt?
      split
      -- A sign is no digit.
      · exact absurd (hdigits '-' List.mem_cons_self) (by decide)
      · exact absurd (hdigits '+' List.mem_cons_self) (by decide)
      · rw [hread]
        rfl
    · rw [readInt?, readNat?_eq_some_iff.mpr ⟨hne, hdigits, rfl⟩]
      rfl
    · rw [readInt?, readNat?_eq_some_iff.mpr ⟨hne, hdigits, rfl⟩]
      rfl

/-- What reads as an integer has no blanks. -/
theorem of_readInt? {n : Int} (h : readInt? cs = some n) :
    cs ≠ [] ∧ ∀ c ∈ cs, isBlank c = false := by
  obtain ⟨hne, hdigits⟩ | ⟨-, hdigits⟩ | ⟨-, hdigits⟩ := readInt?_eq_some_iff.mp h
  · exact ⟨hne, fun c hc => isBlank_of_isDigit (hdigits c hc)⟩
  · exact ⟨List.cons_ne_nil _ _,
      List.forall_mem_cons.mpr ⟨by decide, fun c hc => isBlank_of_isDigit (hdigits c hc)⟩⟩
  · exact ⟨List.cons_ne_nil _ _,
      List.forall_mem_cons.mpr ⟨by decide, fun c hc => isBlank_of_isDigit (hdigits c hc)⟩⟩

end FrameSource.Text
