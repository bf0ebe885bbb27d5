import FrameSource.Json.Tree
import FrameSource.Number.Spelling

/-!
# JSON values

What a JSON text denotes. An integer within 64 bits is exact; every other number is a double, and a
number too great for one denotes nothing. A string with an unpaired surrogate denotes nothing either,
nor does a value that is nested more deeply than it may be. Members are in ascending order of their
names, a repeated name keeping its last value.
-/

namespace FrameSource.Json

/-- A JSON number. Singles occur only in values that are written. -/
inductive Number where
  | int (n : Int)
  | double (x : Double)
  | single (x : Single)
deriving DecidableEq, Repr

/-- A JSON value. -/
inductive Value where
  | null
  | bool (b : Bool)
  | number (n : Number)
  | string (s : String)
  | array (items : List Value)
  | object (members : List (String × Value))
deriving Repr

/-! ## Numbers -/

/-- The whole numbers that the leading digits of a number are collected in. -/
def collectLimit : Nat := UInt64.size

/-- Digits appended to a number as long as it stays below the limit, and the digits left over. -/
def collectDigits (n : Nat) : List Char → Nat × List Char
  | [] => (n, [])
  | c :: cs =>
    let next := 10 * n + (c.toNat - '0'.toNat)
    if next < collectLimit then collectDigits next cs else (n, c :: cs)

/-- A power of ten as a double. -/
def powerOfTen (e : Nat) : Double :=
  Floating.ofInt .double (Nat.pow 10 e)

/-- The exponent of the greatest power of ten that is a double. -/
def greatestPower : Int := 308

/-- A double times a power of ten, by one multiplication or by divisions; none if it overflows. -/
def scale? (x : Double) (e : Int) : Option Double :=
  if 0 ≤ e then
    if e ≤ greatestPower then
      let y := x.mul (powerOfTen e.toNat)
      if y.isInfinite then none else some y
    else if x.isZero then some x
    else none
  else if -greatestPower ≤ e then some (x.div (powerOfTen (-e).toNat))
  else if x.isZero then some x
  else scale? (x.div (powerOfTen greatestPower.toNat)) (e + greatestPower)
termination_by (-e).toNat
decreasing_by simp only [greatestPower] at *; omega

/-- The greatest number of the exponent that is looked at; what lies beyond is as good as
infinite. -/
def exponentLimit : Nat := 2147483647

/-- The double that significant digits and an exponent stand for. -/
def double? (negative : Bool) (significand : Nat) (e : Int) : Option Double := do
  let x ← scale? (Floating.ofInt .double significand) e
  return if negative then x.neg else x

/-- What a number with a fraction or an exponent, or with more digits than are collected, denotes.
Leading digits are collected exactly, those after them count only as places before the point. -/
def Numeral.double? (n : Numeral) : Option Double :=
  let (significand, skipped) := collectDigits 0 n.whole
  let (significand, ignored) := collectDigits significand n.fraction
  let places : Int := (skipped.length : Int) - (n.fraction.length - ignored.length)
  match n.exponent with
  | none => Json.double? n.negative significand places
  | some (below, digits) =>
    let e := Text.natOfDigits digits
    if exponentLimit < e then
      if significand = 0 ∨ below then some (Floating.zero n.negative) else none
    else Json.double? n.negative significand (places + (if below then -(e : Int) else e))

/-- What a number denotes. A negative zero is a double. -/
def Numeral.number? (n : Numeral) : Option Number :=
  let value := Text.natOfDigits n.whole
  if n.fraction.isEmpty ∧ n.exponent.isNone then
    if n.negative then
      if 0 < value ∧ Text.int64Min ≤ -(value : Int) then some (.int (-(value : Int)))
      else n.double?.map .double
    else if value < collectLimit then some (.int value)
    else n.double?.map .double
  else n.double?.map .double

/-! ## Strings -/

/-- A leading surrogate. -/
def isLeading (n : Nat) : Bool := 0xd800 ≤ n && n < 0xdc00

/-- A trailing surrogate. -/
def isTrailing (n : Nat) : Bool := 0xdc00 ≤ n && n < 0xe000

/-- The characters of a string as written: surrogates must come in pairs. -/
def decodeUnits? : List StringUnit → Option (List Char)
  | [] => some []
  | .char c :: us => (decodeUnits? us).map (c :: ·)
  | .code n :: us =>
    if isTrailing n then none
    else if isLeading n then
      match us with
      | .code m :: us =>
        if isTrailing m then
          (decodeUnits? us).map (Char.ofNat (0x10000 + (n - 0xd800) * 0x400 + (m - 0xdc00)) :: ·)
        else none
      | _ => none
    else (decodeUnits? us).map (Char.ofNat n :: ·)

/-- The string that a string as written denotes. -/
def text? (units : List StringUnit) : Option String :=
  (decodeUnits? units).map String.ofList

/-! ## Values -/

/-- Members in ascending order of their names with one more put in; a name that is there already
takes the new value. -/
def putMember (name : String) (value : Value) : List (String × Value) → List (String × Value)
  | [] => [(name, value)]
  | m :: ms =>
    if name = m.1 then (name, value) :: ms
    else if name < m.1 then (name, value) :: m :: ms
    else m :: putMember name value ms

mutual

/-- What a tree denotes, where containers may be nested `depth` deep. -/
def Tree.value? (depth : Nat) : Tree → Option Value
  | .null => some .null
  | .bool b => some (.bool b)
  | .number n => n.number?.map .number
  | .string s => (text? s).map .string
  | .array items =>
    match depth with
    | 0 => none
    | depth + 1 => (itemValues? depth items).map .array
  | .object members =>
    match depth with
    | 0 => none
    | depth + 1 => (memberValues? depth members).map fun ms =>
        .object (ms.foldl (fun sorted m => putMember m.1 m.2 sorted) [])

/-- What the items of an array denote. -/
def itemValues? (depth : Nat) : List Tree → Option (List Value)
  | [] => some []
  | t :: ts => do
    let v ← t.value? depth
    let vs ← itemValues? depth ts
    return v :: vs

/-- What the members of an object denote, in the order of writing. -/
def memberValues? (depth : Nat) : List (List StringUnit × Tree) → Option (List (String × Value))
  | [] => some []
  | (key, t) :: ms => do
    let name ← text? key
    let v ← t.value? depth
    let vs ← memberValues? depth ms
    return (name, v) :: vs

end

end FrameSource.Json
