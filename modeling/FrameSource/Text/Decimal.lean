/-!
# Decimal integers

Writing natural numbers and integers in base ten, and reading them back: `readNat?` takes one or
more ASCII digits, `readInt?` an optional sign before them, and `readInt64?` adds the range of a
signed 64-bit word. None of them allows blanks, separators or other scripts' digits.
-/

namespace FrameSource.Text

/-- The ASCII digits. -/
def isDigit (c : Char) : Bool :=
  c.isDigit

/-- The decimal digits of a natural number, without leading zeros. -/
def decimal (n : Nat) : List Char :=
  Nat.toDigits 10 n

/-- At least `width` digits, filled up with zeros on the left. -/
def decimalPadded (width n : Nat) : List Char :=
  List.replicate (width - (decimal n).length) '0' ++ decimal n

/-- An integer, with a sign only when it is negative. -/
def decimalInt : Int → List Char
  | .ofNat n => decimal n
  | .negSucc n => '-' :: decimal (n + 1)

/-- The number that a list of digits denotes. -/
def natOfDigits (ds : List Char) : Nat :=
  Nat.ofDigitChars 10 ds 0

/-- One or more digits and nothing else. -/
def readNat? (cs : List Char) : Option Nat :=
  if cs ≠ [] ∧ cs.all isDigit then some (natOfDigits cs) else none

/-- Digits after an optional sign. -/
def readInt? : List Char → Option Int
  | '-' :: cs => (readNat? cs).map fun n => -(n : Int)
  | '+' :: cs => (readNat? cs).map fun n => (n : Int)
  | cs => (readNat? cs).map fun n => (n : Int)

/-- The greatest signed 64-bit integer. -/
def int64Max : Int := 9223372036854775807

/-- The least signed 64-bit integer. -/
def int64Min : Int := -9223372036854775808

/-- An integer that fits a signed 64-bit word. -/
def inInt64 (n : Int) : Bool :=
  int64Min ≤ n && n ≤ int64Max

/-- Digits after an optional sign whose value fits a signed 64-bit word. -/
def readInt64? (cs : List Char) : Option Int :=
  (readInt? cs).filter inInt64

/-- A natural number as a string. -/
def natText (n : Nat) : String :=
  String.ofList (decimal n)

/-- An integer as a string. -/
def intText (n : Int) : String :=
  String.ofList (decimalInt n)

/-! ## Reading back what was written -/

theorem decimal_ne_nil (n : Nat) : decimal n ≠ [] :=
  Nat.toDigits_ne_nil

theorem all_isDigit_decimal (n : Nat) : (decimal n).all isDigit = true :=
  List.all_eq_true.mpr fun _ h => Nat.isDigit_of_mem_toDigits (by decide) (by decide) h

theorem natOfDigits_decimal (n : Nat) : natOfDigits (decimal n) = n :=
  Nat.ofDigitChars_toDigits (by decide) (by decide)

theorem readNat?_decimal (n : Nat) : readNat? (decimal n) = some n := by
  simp [readNat?, decimal_ne_nil, all_isDigit_decimal, natOfDigits_decimal]

theorem isDigit_head_decimal {n : Nat} {c : Char} {r : List Char} (h : decimal n = c :: r) :
    isDigit c = true :=
  List.all_eq_true.mp (all_isDigit_decimal n) c (by simp [h])

/-- An integer is read back from its decimal spelling. -/
theorem readInt?_decimalInt (n : Int) : readInt? (decimalInt n) = some n := by
  cases n with
  | ofNat n =>
    simp only [decimalInt]
    cases h : decimal n with
    | nil => exact absurd h (decimal_ne_nil n)
    | cons c r =>
      have hc := isDigit_head_decimal h
      have hm : c ≠ '-' := by rintro rfl; exact absurd hc (by decide)
      have hp : c ≠ '+' := by rintro rfl; exact absurd hc (by decide)
      unfold readInt?
      split
      · simp_all
      · simp_all
      · rw [← h, readNat?_decimal]; rfl
  | negSucc n =>
    simp only [decimalInt, readInt?, readNat?_decimal]
    rfl

end FrameSource.Text
