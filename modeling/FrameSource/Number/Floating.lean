/-!
# Binary floating-point numbers

A floating-point number of a binary format, kept as the exact value it denotes: sign, whole
significand and power of two. Everything is computed on natural numbers and integers; the one place
where a number is made inexact is `roundRatio`, which takes an exact ratio to the nearest number of
the format, a tie going to the even significand.
-/

namespace FrameSource

/-- A binary format: `precision` bits of significand, and the range of the exponent of its last
bit. -/
structure BinaryFormat where
  precision : Nat
  minExponent : Int
  maxExponent : Int
deriving DecidableEq, Repr

/-- The 32-bit interchange format. -/
def BinaryFormat.single : BinaryFormat := ⟨24, -149, 104⟩

/-- The 64-bit interchange format. -/
def BinaryFormat.double : BinaryFormat := ⟨53, -1074, 971⟩

/-- A number of a binary format. The finite ones denote `± significand · 2 ^ exponent`; zeros have
a sign. -/
inductive Floating (format : BinaryFormat) where
  | nan
  | infinite (negative : Bool)
  | finite (negative : Bool) (significand : Nat) (exponent : Int)
deriving DecidableEq, Repr

/-- 32-bit numbers. -/
abbrev Single := Floating .single

/-- 64-bit numbers. -/
abbrev Double := Floating .double

namespace Floating

variable {format : BinaryFormat}

/-- Zero of either sign. -/
def zero (negative : Bool) : Floating format :=
  .finite negative 0 format.minExponent

/-- The same number with the other sign. -/
def neg : Floating format → Floating format
  | .nan => .nan
  | .infinite s => .infinite (!s)
  | .finite s m q => .finite (!s) m q

/-- The whole number nearest to `a / b`, a tie going to the even one. -/
def divNearestEven (a b : Nat) : Nat :=
  if 2 * (a % b) < b ∨ (2 * (a % b) = b ∧ a / b % 2 = 0) then a / b else a / b + 1

/-- The ratio `num / den` measured in units of `2 ^ q`, as a ratio again. -/
def inUnits (num den : Nat) (q : Int) : Nat × Nat :=
  if 0 ≤ q then (num, den * Nat.pow 2 q.toNat) else (num * Nat.pow 2 (-q).toNat, den)

/-- The exponent at which the significand of `num / den` has `precision` bits, or the least
exponent of the format if that is greater. -/
def unitExponent (format : BinaryFormat) (num den : Nat) : Int :=
  let low : Int := (num.log2 : Int) - den.log2 - format.precision
  let q := max low format.minExponent
  let (a, b) := inUnits num den q
  if a / b < Nat.pow 2 format.precision then q else q + 1

/-- The number of the format nearest to `± num / den`; what rounds beyond the greatest finite number
is infinite. -/
def roundRatio (format : BinaryFormat) (negative : Bool) (num den : Nat) : Floating format :=
  if num = 0 then zero negative
  else
    let q := unitExponent format num den
    let (a, b) := inUnits num den q
    let m := divNearestEven a b
    let (m, q) := if m = Nat.pow 2 format.precision then (m / 2, q + 1) else (m, q)
    if format.maxExponent < q then .infinite negative else .finite negative m q

/-- The number nearest to an integer. -/
def ofInt (format : BinaryFormat) (n : Int) : Floating format :=
  roundRatio format (n < 0) n.natAbs 1

/-- The number nearest to `± digits · 10 ^ exponent`. Far outside the range of any format the power
is not computed. -/
def ofDecimal (format : BinaryFormat) (negative : Bool) (digits : Nat) (exponent : Int) :
    Floating format :=
  let magnitude := ((Nat.toDigits 10 digits).length : Int) + exponent
  if digits = 0 then zero negative
  else if 400 < magnitude then .infinite negative
  else if magnitude < -400 then zero negative
  else if 0 ≤ exponent then roundRatio format negative (digits * Nat.pow 10 exponent.toNat) 1
  else roundRatio format negative digits (Nat.pow 10 (-exponent).toNat)

/-- The magnitude of `m · 2 ^ q` as a ratio. -/
def ratio (m : Nat) (q : Int) : Nat × Nat :=
  if 0 ≤ q then (m * Nat.pow 2 q.toNat, 1) else (m, Nat.pow 2 (-q).toNat)

/-- The nearest number of another format. -/
def convert (target : BinaryFormat) : Floating format → Floating target
  | .nan => .nan
  | .infinite s => .infinite s
  | .finite s m q => roundRatio target s (ratio m q).1 (ratio m q).2

/-- Product of two finite numbers, rounded; other operands count as not a number. -/
def mul : Floating format → Floating format → Floating format
  | .finite s m q, .finite s' m' q' =>
    let r := ratio (m * m') (q + q')
    roundRatio format (s != s') r.1 r.2
  | _, _ => .nan

/-- Quotient of two finite numbers, rounded; other operands and a zero divisor count as not a
number. -/
def div : Floating format → Floating format → Floating format
  | .finite s m q, .finite s' m' q' =>
    if m' = 0 then .nan
    else
      let r := ratio m (q - q')
      roundRatio format (s != s') r.1 (r.2 * m')
  | _, _ => .nan

/-- Whether a number is infinite. -/
def isInfinite : Floating format → Bool
  | .infinite _ => true
  | _ => false

/-- Whether a number is a zero. -/
def isZero : Floating format → Bool
  | .finite _ m _ => m = 0
  | _ => false

/-- The integer that a number is equal to, if it is whole. -/
def toInt? : Floating format → Option Int
  | .finite s m q =>
    let (a, b) := ratio m q
    if a % b = 0 then some (if s then -((a / b : Nat) : Int) else (a / b : Nat)) else none
  | _ => none

end Floating

end FrameSource
