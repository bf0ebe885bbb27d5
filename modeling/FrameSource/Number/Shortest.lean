import FrameSource.Number.Floating

/-!
# Shortest decimals

The decimal with the fewest digits that still rounds to a given floating-point number. The reals
that round to `m · 2 ^ q` form an interval around it, which includes its ends when `m` is even. On
the grid of `n`-digit decimals only the two neighbours of the number itself have to be tried, so
the first `n` for which one of them lies in the interval gives the fewest digits; of two hits the
nearer is taken.
-/

namespace FrameSource

/-- Which of two equally near decimals is taken. -/
inductive DecimalTie where
  | up
  | even
deriving DecidableEq, Repr

/-- A decimal `digits · 10 ^ exponent`. -/
structure Decimal where
  digits : Nat
  exponent : Int
deriving DecidableEq, Repr

namespace Decimal

/-- The exponent of the leading digit. -/
def leading (d : Decimal) : Int :=
  d.exponent + (Nat.toDigits 10 d.digits).length - 1

/-- The same decimal without trailing zeros; `fuel` bounds their number. -/
def dropZeros : Nat → Decimal → Decimal
  | 0, d => d
  | fuel + 1, d =>
    if d.digits % 10 = 0 ∧ d.digits ≠ 0 then dropZeros fuel ⟨d.digits / 10, d.exponent + 1⟩ else d

/-- The same decimal with as few digits as possible. -/
def normal (d : Decimal) : Decimal :=
  dropZeros (Nat.toDigits 10 d.digits).length d

end Decimal

namespace Shortest

/-- The exponent `e` with `10 ^ e ≤ num / den < 10 ^ (e + 1)`, for a positive ratio. -/
def leadingExponent (num den : Nat) : Int :=
  if den ≤ num then (Nat.toDigits 10 (num / den)).length - 1
  else -((Nat.toDigits 10 ((den - 1) / num)).length : Int)

/-- An interval of ratios over a common denominator, with or without its ends. -/
structure Interval where
  low : Nat
  high : Nat
  den : Nat
  closed : Bool
deriving Repr

/-- Whether `a / b` lies in the interval. -/
def Interval.holds (i : Interval) (a b : Nat) : Bool :=
  if i.closed then i.low * b ≤ a * i.den && a * i.den ≤ i.high * b
  else i.low * b < a * i.den && a * i.den < i.high * b

/-- The reals that round to `m · 2 ^ q`. Below a power of two the gap is half as wide, except at the
least exponent. The middle component is the number itself over the interval's denominator. -/
def roundingInterval (format : BinaryFormat) (m : Nat) (q : Int) : Nat × Interval :=
  let unit := Floating.ratio 1 (q - 2)
  let below := if m = Nat.pow 2 (format.precision - 1) ∧ format.minExponent < q then 1 else 2
  (4 * m * unit.1, ⟨(4 * m - below) * unit.1, (4 * m + 2) * unit.1, unit.2, m % 2 = 0⟩)

/-- The power `10 ^ e` as a ratio. -/
def powerOfTen (e : Int) : Nat × Nat :=
  if 0 ≤ e then (Nat.pow 10 e.toNat, 1) else (1, Nat.pow 10 (-e).toNat)

/-- The decimal with `count` digits that lies in the interval and is nearest to `value / den`, if
one does. -/
def onGrid (tie : DecimalTie) (value : Nat) (i : Interval) (e : Int) (count : Nat) :
    Option Decimal :=
  let x := e - count + 1
  let (p, r) := powerOfTen x
  -- the number in units of `p / r` is `a / b`
  let a := value * r
  let b := i.den * p
  let d := a / b
  let rest := a % b
  let down := i.holds (d * p) r
  let up := i.holds ((d + 1) * p) r
  let takeUp :=
    up && (!down || b < 2 * rest ||
      (2 * rest == b && (match tie with | .up => true | .even => d % 2 == 1)))
  if takeUp then some ⟨d + 1, x⟩ else if down then some ⟨d, x⟩ else none

/-- The shortest decimal for `m · 2 ^ q` with `m` positive. Seventeen digits identify every number
of a format up to 64 bits. -/
def decimal (format : BinaryFormat) (tie : DecimalTie) (m : Nat) (q : Int) : Decimal :=
  let (value, i) := roundingInterval format m q
  let e := leadingExponent value i.den
  match (List.range' 1 17).findSome? (onGrid tie value i e) with
  | some d => d.normal
  | none => ⟨value / i.den, 0⟩

end Shortest

end FrameSource
