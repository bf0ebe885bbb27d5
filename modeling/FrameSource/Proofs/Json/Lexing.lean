import FrameSource.Json.Printer
import FrameSource.Proofs.Number.Digits
import FrameSource.Proofs.Text.Numerals

/-!
# Written tokens

The numbers and strings that are written, as tokens. A number is written as a numeral of the grammar:
integers without zeros in front (`Number.numeral?`), and floating-point numbers with digits on both
sides of the point. A string is written unit by unit, each character as itself, with a letter after a
backslash, or as the code of a control character (`unitOf`).

**A token is read off the front of a text** as it was written, whatever follows it, if a number is
followed by something that cannot belong to it (`lexToken?_number`, `lexToken?_string`).
-/

namespace FrameSource

open Text

namespace Json

/-! ## Numerals -/

/-- A text goes on with something that cannot belong to a number. -/
def Detached (rest : List Char) : Prop :=
  ∀ c ∈ rest.head?, isDigit c = false ∧ c ≠ '.' ∧ c ≠ 'e' ∧ c ≠ 'E'

/-- The characters of a fraction. -/
def fractionChars (fraction : List Char) : List Char :=
  if fraction = [] then [] else '.' :: fraction

/-- The characters of an exponent, which may have a plus sign if it is not negative. -/
def exponentChars (plus : Bool) : Option (Bool × List Char) → List Char
  | none => []
  | some (below, digits) => 'e' :: ((if below then ['-'] else if plus then ['+'] else []) ++ digits)

/-- The characters of a number. -/
def Numeral.chars (plus : Bool) (n : Numeral) : List Char :=
  (if n.negative then ['-'] else []) ++
    (n.whole ++ (fractionChars n.fraction ++ exponentChars plus n.exponent))

/-- A number of the grammar: digits on both sides of the point, and no zeros in front. -/
structure Numeral.IsProper (n : Numeral) : Prop where
  whole : n.whole ≠ [] ∧ ∀ c ∈ n.whole, isDigit c = true
  lead : n.whole.head? = some '0' → n.whole.length = 1
  fraction : ∀ c ∈ n.fraction, isDigit c = true
  exponent : ∀ below digits, n.exponent = some (below, digits) →
    digits ≠ [] ∧ ∀ c ∈ digits, isDigit c = true

theorem lexDigits?_append {digits rest : List Char} (hne : digits ≠ [])
    (hdigits : ∀ c ∈ digits, isDigit c = true) (hrest : ∀ c ∈ rest.head?, isDigit c = false) :
    lexDigits? (digits ++ rest) = some (digits, rest) := by
  obtain ⟨htake, hdrop⟩ := takeWhile_isDigit_append hdigits hrest
  have hsome : digits.isEmpty = false := List.isEmpty_eq_false_iff.mpr hne
  simp only [lexDigits?, htake, hdrop, hsome, Bool.false_eq_true, if_false]

/-- An exponent is read off with its sign. -/
theorem lexExponent?_append {exponent : Option (Bool × List Char)} {rest : List Char}
    (h : ∀ below digits, exponent = some (below, digits) →
      digits ≠ [] ∧ ∀ c ∈ digits, isDigit c = true) (plus : Bool) (hrest : Detached rest) :
    lexExponent? (exponentChars plus exponent ++ rest) = some (exponent, rest) := by
  cases exponent with
  | none =>
    cases rest with
    | nil => rfl
    | cons c rest =>
      obtain ⟨_, _, he, hE⟩ := hrest c rfl
      exact if_neg (not_or.mpr ⟨he, hE⟩)
  | some e =>
    obtain ⟨below, digits⟩ := e
    obtain ⟨hne, hdigits⟩ := h below digits rfl
    have hread := lexDigits?_append hne hdigits fun c hc => (hrest c hc).1
    have hsigned : lexSignedDigits? ((if below then ['-'] else if plus then ['+'] else []) ++
        (digits ++ rest)) = some ((below, digits), rest) := by
      cases below with
      | true => exact congrArg (Option.map _) hread
      | false =>
        cases plus with
        | true => exact congrArg (Option.map _) hread
        | false =>
          -- Without a sign the digits begin at once.
          obtain ⟨d, ds, rfl⟩ := List.exists_cons_of_ne_nil hne
          have hd := hdigits d List.mem_cons_self
          show lexSignedDigits? (d :: (ds ++ rest)) = _
          unfold lexSignedDigits?
          split
          · next heq =>
            obtain rfl := (List.cons.inj heq).1
            cases hd
          · next heq =>
            obtain rfl := (List.cons.inj heq).1
            cases hd
          · exact congrArg (Option.map _) hread
    have hshape : exponentChars plus (some (below, digits)) ++ rest =
        'e' :: ((if below then ['-'] else if plus then ['+'] else []) ++ (digits ++ rest)) := by
      rw [exponentChars, List.cons_append, List.append_assoc]
    rw [hshape]
    show (lexSignedDigits? _).map _ = _
    rw [hsigned]
    rfl

/-- A fraction is read off, if there is one. -/
theorem lexFraction?_append {fraction rest : List Char} (h : ∀ c ∈ fraction, isDigit c = true)
    (hrest : ∀ c ∈ rest.head?, isDigit c = false ∧ c ≠ '.') :
    lexFraction? (fractionChars fraction ++ rest) = some (fraction, rest) := by
  unfold fractionChars
  split
  · next hnil =>
    subst hnil
    rw [List.nil_append]
    unfold lexFraction?
    split
    · next heq => exact absurd rfl (hrest '.' rfl).2
    · rfl
  · next hne => exact lexDigits?_append hne h fun c hc => (hrest c hc).1

/-- What follows the digits of a fraction cannot belong to it. -/
theorem head?_exponentChars (plus : Bool) (exponent : Option (Bool × List Char)) {rest : List Char}
    (hrest : Detached rest) :
    ∀ c ∈ (exponentChars plus exponent ++ rest).head?, isDigit c = false ∧ c ≠ '.' := by
  intro c hc
  cases exponent with
  | none => exact ⟨(hrest c hc).1, (hrest c hc).2.1⟩
  | some e =>
    obtain rfl : 'e' = c := Option.some.inj hc
    decide

/-- What follows the digits before the point cannot belong to them. -/
theorem head?_fractionChars (fraction : List Char) {rest : List Char}
    (hrest : ∀ c ∈ rest.head?, isDigit c = false) :
    ∀ c ∈ (fractionChars fraction ++ rest).head?, isDigit c = false := by
  intro c hc
  unfold fractionChars at hc
  split at hc
  · exact hrest c hc
  · obtain rfl : '.' = c := Option.some.inj hc
    decide

/-- A numeral is read back part by part, up to a character that cannot go on with it. -/
theorem lexMagnitude?_append {n : Numeral} (h : n.IsProper) (plus : Bool) {rest : List Char}
    (hrest : Detached rest) :
    lexMagnitude? n.negative (n.whole ++
      (fractionChars n.fraction ++ (exponentChars plus n.exponent ++ rest))) = some (n, rest) := by
  have hafter := head?_exponentChars plus n.exponent hrest
  have hdigits := lexDigits?_append h.whole.1 h.whole.2
    (head?_fractionChars n.fraction fun c hc => (hafter c hc).1)
  have hlead : ¬ (n.whole.head? = some '0' ∧ 1 < n.whole.length) := by
    rintro ⟨hzero, hlength⟩
    exact hlength.ne' (h.lead hzero)
  simp only [lexMagnitude?, lexWhole?, hdigits, Option.bind_eq_bind, Option.bind_some, hlead,
    if_false, lexFraction?_append h.fraction hafter, lexExponent?_append h.exponent plus hrest]
  rfl

/-- The first character of a number is a digit or a minus sign. -/
theorem Numeral.IsProper.exists_chars {n : Numeral} (h : n.IsProper) (plus : Bool)
    (rest : List Char) : ∃ c cs, n.chars plus ++ rest = c :: cs ∧ (isDigit c = true ∨ c = '-') := by
  unfold Numeral.chars
  cases n.negative with
  | true => exact ⟨'-', _, rfl, Or.inr rfl⟩
  | false =>
    obtain ⟨c, cs, hcs⟩ := List.exists_cons_of_ne_nil h.whole.1
    exact ⟨c, _, by rw [hcs]; rfl, Or.inl (h.whole.2 c (hcs ▸ List.mem_cons_self))⟩

/-- A number is read off the front of a text. -/
theorem lexNumeral?_append {n : Numeral} (h : n.IsProper) (plus : Bool) {rest : List Char}
    (hrest : Detached rest) : lexNumeral? (n.chars plus ++ rest) = some (n, rest) := by
  have hread := lexMagnitude?_append h plus hrest
  rw [Numeral.chars, List.append_assoc, List.append_assoc, List.append_assoc]
  cases hnegative : n.negative with
  | true =>
    rw [hnegative] at hread
    exact hread
  | false =>
    rw [hnegative] at hread
    obtain ⟨c, cs, hcs⟩ := List.exists_cons_of_ne_nil h.whole.1
    have hc := h.whole.2 c (hcs ▸ List.mem_cons_self)
    rw [hcs] at hread ⊢
    show lexNumeral? (c :: _) = _
    unfold lexNumeral?
    split
    · next heq =>
      obtain rfl := (List.cons.inj heq).1
      cases hc
    · exact hread

/-- A text that begins like a number is read as one. -/
theorem lexToken?_of_digit {c : Char} (h : isDigit c = true ∨ c = '-') (cs : List Char) :
    lexToken? (c :: cs) = (lexNumeral? (c :: cs)).map fun r => (.numeral r.1, r.2) := by
  have hne : ∀ d, isDigit d = false → d ≠ '-' → ∀ ds, c :: cs ≠ d :: ds := by
    rintro d hd hminus ds heq
    obtain rfl := (List.cons.inj heq).1
    obtain h | h := h
    · cases hd.symm.trans h
    · exact hminus h
  unfold lexToken?
  split
  case h_11 => rfl
  all_goals
    next heq => exact absurd heq (hne _ (by decide) (by decide) _)

/-- **A number is a token.** -/
theorem lexToken?_numeral {n : Numeral} (h : n.IsProper) (plus : Bool) {rest : List Char}
    (hrest : Detached rest) : lexToken? (n.chars plus ++ rest) = some (.numeral n, rest) := by
  obtain ⟨c, cs, hcs, hc⟩ := h.exists_chars plus rest
  rw [hcs, lexToken?_of_digit hc, ← hcs, lexNumeral?_append h plus hrest]
  rfl

/-! ## Integers and decimals -/

/-- An integer as a numeral. -/
def intNumeral (n : ℤ) : Numeral :=
  ⟨n < 0, decimal n.natAbs, [], none⟩

/-- A decimal as a numeral with all its places. -/
def positionalNumeral (style : Spelling) (negative : Bool) (d : Decimal) : Numeral :=
  let ds := decimal d.digits
  let places := (-d.exponent).toNat
  if 0 ≤ d.exponent then
    ⟨negative, ds ++ List.replicate d.exponent.toNat '0', if style.fraction then ['0'] else [], none⟩
  else if places < ds.length then
    ⟨negative, ds.take (ds.length - places), ds.drop (ds.length - places), none⟩
  else ⟨negative, ['0'], List.replicate (places - ds.length) '0' ++ ds, none⟩

/-- A decimal as a numeral with an exponent. -/
def scientificNumeral (negative : Bool) (d : Decimal) : Numeral :=
  ⟨negative, (decimal d.digits).take 1, (decimal d.digits).drop 1,
    some (d.leading < 0, decimal d.leading.natAbs)⟩

/-- A decimal as a numeral in the form that its magnitude asks for. -/
def decimalNumeral (style : Spelling) (negative : Bool) (d : Decimal) : Numeral :=
  match style.positional with
  | none => positionalNumeral style negative d
  | some (low, high) =>
    if d.digits = 0 ∨ (low ≤ d.leading ∧ d.leading ≤ high) then positionalNumeral style negative d
    else scientificNumeral negative d

/-- The characters of a numeral without an exponent. -/
theorem chars_of_exponent_none (plus negative : Bool) (whole fraction : List Char) :
    (⟨negative, whole, fraction, none⟩ : Numeral).chars plus =
      (if negative then ['-'] else []) ++ (whole ++ fractionChars fraction) := by
  rw [Numeral.chars, exponentChars, List.append_nil]

/-- An integer is written as its sign and the digits of its absolute value. -/
theorem decimalInt_eq (n : ℤ) :
    decimalInt n = (if n < 0 then ['-'] else []) ++ decimal n.natAbs := by
  cases n with
  | ofNat n => exact (if_neg (not_lt.mpr (Int.natCast_nonneg n))).symm ▸ rfl
  | negSucc n => exact (if_pos (Int.negSucc_lt_zero n)).symm ▸ rfl

theorem chars_intNumeral (plus : Bool) (n : ℤ) : (intNumeral n).chars plus = decimalInt n := by
  rw [intNumeral, chars_of_exponent_none, fractionChars, if_pos rfl, List.append_nil, decimalInt_eq]
  simp only [decide_eq_true_eq]

/-- An integer has no leading zero, no fraction and no exponent, so it is a numeral of the grammar. -/
theorem isProper_intNumeral (n : ℤ) : (intNumeral n).IsProper where
  whole := ⟨decimal_ne_nil _, List.all_eq_true.mp (all_isDigit_decimal _)⟩
  lead := by
    intro hzero
    obtain hnatAbs | hpos := Nat.eq_zero_or_pos n.natAbs
    · show (decimal n.natAbs).length = 1
      rw [hnatAbs]
      rfl
    · exact absurd hzero (head?_decimal_ne_zero hpos)
  fraction := nofun
  exponent := nofun

section Decimals

variable (style : Spelling) (negative : Bool) (d : Decimal)

/-- The numeral that is meant by a double in positional spelling has the characters that are
written. -/
theorem chars_positionalNumeral (plus : Bool) :
    (positionalNumeral style negative d).chars plus =
      (if negative then ['-'] else []) ++ style.writePositional d := by
  unfold positionalNumeral Spelling.writePositional
  simp only
  split
  · rw [chars_of_exponent_none, fractionChars]
    cases style.fraction <;> rfl
  · next hexponent =>
    split
    · next hplaces =>
      have hfraction :
          (decimal d.digits).drop ((decimal d.digits).length - (-d.exponent).toNat) ≠ [] := by
        rw [ne_eq, List.drop_eq_nil_iff]
        omega
      rw [chars_of_exponent_none, fractionChars, if_neg hfraction, List.append_assoc]
      rfl
    · have hfraction : List.replicate ((-d.exponent).toNat - (decimal d.digits).length) '0' ++
          decimal d.digits ≠ [] := List.append_ne_nil_of_right_ne_nil _ (decimal_ne_nil _)
      rw [chars_of_exponent_none, fractionChars, if_neg hfraction]
      rfl

/-- The same for a spelling with an exponent, the sign of which depends on the style. -/
theorem chars_scientificNumeral :
    (scientificNumeral negative d).chars style.plusSign =
      (if negative then ['-'] else []) ++ style.writeScientific d := by
  have hfraction : fractionChars ((decimal d.digits).drop 1) =
      if 1 < (decimal d.digits).length then '.' :: (decimal d.digits).drop 1 else [] := by
    unfold fractionChars
    split
    · next hnil => rw [if_neg (by rw [List.drop_eq_nil_iff] at hnil; omega)]
    · next hne => rw [if_pos (by rw [List.drop_eq_nil_iff] at hne; omega)]
  have hexponent : exponentChars style.plusSign (some (d.leading < 0, decimal d.leading.natAbs)) =
      'e' :: ((if style.plusSign ∧ 0 ≤ d.leading then ['+'] else []) ++ decimalInt d.leading) := by
    rw [exponentChars, decimalInt_eq]
    by_cases hneg : d.leading < 0
    · simp [hneg]
    · simp [hneg, not_lt.mp hneg]
  rw [Numeral.chars, scientificNumeral, hfraction, hexponent]
  simp only [Spelling.writeScientific, List.append_assoc, List.cons_append, List.nil_append]

/-- A decimal is written as its numeral. -/
theorem chars_decimalNumeral :
    (decimalNumeral style negative d).chars style.plusSign =
      (if negative then ['-'] else []) ++ style.writeDecimal d := by
  have hpositional := chars_positionalNumeral style negative d style.plusSign
  unfold decimalNumeral Spelling.writeDecimal
  cases style.positional with
  | none => exact hpositional
  | some range =>
    obtain ⟨low, high⟩ := range
    by_cases h : d.digits = 0 ∨ (low ≤ d.leading ∧ d.leading ≤ high)
    · simp only [if_pos h, hpositional]
    · simp only [if_neg h, chars_scientificNumeral]

variable {d}

/-- Only zero is written with a zero in front. -/
theorem lead_decimal {n : ℕ} (h : (decimal n).head? = some '0') : n = 0 := by
  obtain hzero | hpos := Nat.eq_zero_or_pos n
  · exact hzero
  · exact absurd h (head?_decimal_ne_zero hpos)

/-- A positional spelling has no leading zero but the single one in front of a point. -/
theorem isProper_positionalNumeral (h : d.IsSolid) :
    (positionalNumeral style negative d).IsProper := by
  have hdigits := List.all_eq_true.mp (all_isDigit_decimal d.digits)
  have hzeros : ∀ n, ∀ c ∈ List.replicate n '0', isDigit c = true := by
    intro n c hc
    rw [List.eq_of_mem_replicate hc]
    rfl
  have hzero : d.digits = 0 → (decimal d.digits).length = 1 := by
    intro hzero
    rw [hzero]
    rfl
  unfold positionalNumeral
  simp only
  split
  -- Zeros are put behind the digits, the point goes between them, or zeros stand in front.
  · refine ⟨⟨List.append_ne_nil_of_left_ne_nil (decimal_ne_nil _) _, ?_⟩, ?_, ?_, nofun⟩
    · exact List.forall_mem_append.mpr ⟨hdigits, hzeros _⟩
    · intro hlead
      rw [List.head?_append_of_ne_nil _ (decimal_ne_nil _)] at hlead
      have hnone := lead_decimal hlead
      have hexponent : d.exponent.toNat = 0 := by
        have hsolid := mt h (by omega)
        omega
      rw [hexponent, List.replicate_zero, List.append_nil]
      exact hzero hnone
    · cases style.fraction with
      | true => exact hzeros 1
      | false => exact nofun
  · next hexponent =>
    split
    · next hplaces =>
      refine ⟨⟨?_, fun c hc => hdigits c (List.mem_of_mem_take hc)⟩, ?_,
        fun c hc => hdigits c (List.mem_of_mem_drop hc), nofun⟩
      · rw [ne_eq, List.take_eq_nil_iff]
        exact not_or.mpr ⟨by omega, decimal_ne_nil _⟩
      · intro hlead
        rw [List.head?_take, if_neg (by omega)] at hlead
        have hlength := hzero (lead_decimal hlead)
        omega
    · refine ⟨⟨List.cons_ne_nil _ _, hzeros 1⟩, fun _ => rfl, ?_, nofun⟩
      exact List.forall_mem_append.mpr ⟨hzeros _, hdigits⟩

theorem isProper_scientificNumeral : (scientificNumeral negative d).IsProper := by
  have hdigits := List.all_eq_true.mp (all_isDigit_decimal d.digits)
  have hpos : 0 < (decimal d.digits).length := List.length_pos_iff.mpr (decimal_ne_nil _)
  refine ⟨⟨?_, fun c hc => hdigits c (List.mem_of_mem_take hc)⟩, ?_,
    fun c hc => hdigits c (List.mem_of_mem_drop hc), ?_⟩
  · show (decimal d.digits).take 1 ≠ []
    rw [ne_eq, List.take_eq_nil_iff]
    exact not_or.mpr ⟨by decide, decimal_ne_nil _⟩
  · intro _
    show ((decimal d.digits).take 1).length = 1
    rw [List.length_take]
    omega
  · rintro below digits ⟨⟩
    exact ⟨decimal_ne_nil _, List.all_eq_true.mp (all_isDigit_decimal _)⟩

/-- Either spelling of shortest digits is a numeral of the grammar; solid digits have no zero in
front. -/
theorem isProper_decimalNumeral (h : d.IsSolid) : (decimalNumeral style negative d).IsProper := by
  unfold decimalNumeral
  split
  · exact isProper_positionalNumeral style negative h
  · split
    · exact isProper_positionalNumeral style negative h
    · exact isProper_scientificNumeral negative

end Decimals

/-! ## Numbers -/

/-- A floating-point number as a numeral; none if it is not finite. -/
def floatingNumeral? {format : BinaryFormat} (style : Spelling) : Floating format → Option Numeral
  | .finite s m q => some (decimalNumeral style s (format.shortest style.tie m q))
  | _ => none

/-- A number as a numeral; none if it is not finite. -/
def Number.numeral? : Number → Option Numeral
  | .int n => some (intNumeral n)
  | .double x => floatingNumeral? .jsonDouble x
  | .single x => floatingNumeral? .jsonSingle x

/-- The token that a number is written as: a number that is not finite has none of its own. -/
def Number.token (n : Number) : Token :=
  match n.numeral? with
  | some numeral => .numeral numeral
  | none => .null

/-- A written double is read as one token: its numeral, or `null` where it has none. -/
theorem lexToken?_floating {format : BinaryFormat} (style : Spelling) (x : Floating format)
    {rest : List Char} (hrest : Detached rest) :
    lexToken? (writeFloating style x ++ rest) =
      some (match floatingNumeral? style x with
        | some numeral => .numeral numeral
        | none => .null, rest) := by
  cases x with
  | nan => rfl
  | infinite s => rfl
  | finite s m q =>
    have hproper := isProper_decimalNumeral style s (format.isSolid_shortest style.tie m q)
    have hread := lexToken?_numeral hproper style.plusSign hrest
    rw [chars_decimalNumeral] at hread
    rw [writeFloating, Floating.spell, String.toList_ofList]
    exact hread

/-- **A number is read off the front of a text** as the token it is written as. -/
theorem lexToken?_number (n : Number) {rest : List Char} (hrest : Detached rest) :
    lexToken? (n.write ++ rest) = some (n.token, rest) := by
  cases n with
  | int n =>
    have hread := lexToken?_numeral (isProper_intNumeral n) true hrest
    rwa [chars_intNumeral] at hread
  | double x => exact lexToken?_floating .jsonDouble x hrest
  | single x => exact lexToken?_floating .jsonSingle x hrest

/-! ## Strings -/

/-- A character of a string as it is written: a control character without a letter of its own is
given by its code. -/
def unitOf (c : Char) : StringUnit :=
  if c.toNat < 0x20 ∧ c ∉ ['\x08', '\x0c', '\n', '\r', '\t'] then .code c.toNat else .char c

/-- The units that a string is written as. -/
def unitsOf (s : String) : List StringUnit :=
  s.toList.map unitOf

/-- The control characters are few, so that the four digits of their escapes can be checked one by
one. -/
theorem hexCode?_control : ∀ n < 0x20,
    hexCode? '0' '0' (hexDigit (n / 16)) (hexDigit n) = some n := by
  decide

/-- **A character is read off the front of a string** as the unit it is written as. -/
theorem lexString?_escapeChar (c : Char) (cs : List Char) :
    lexString? (escapeChar c ++ cs) = (lexString? cs).map fun r => (unitOf c :: r.1, r.2) := by
  unfold escapeChar
  split
  case h_8 hquote hback hb hf hn hr ht =>
    have hplain : c ∉ ['\x08', '\x0c', '\n', '\r', '\t'] := by
      simp only [List.mem_cons, List.not_mem_nil, or_false, not_or]
      exact ⟨hb, hf, hn, hr, ht⟩
    by_cases hcontrol : c.toNat < 0x20
    · rw [if_pos hcontrol, unitOf, if_pos ⟨hcontrol, hplain⟩]
      simp only [List.cons_append, List.nil_append, lexString?, hexCode?_control _ hcontrol]
      cases lexString? cs <;> rfl
    · rw [if_neg hcontrol, unitOf, if_neg fun h => hcontrol h.1]
      show lexString? (c :: cs) = _
      conv_lhs => unfold lexString?
      split
      · next heq => cases heq
      · next heq => exact absurd (List.cons.inj heq).1 hquote
      · next heq => exact absurd (List.cons.inj heq).1 hback
      · next heq => exact absurd (List.cons.inj heq).1 hback
      · next heq =>
        obtain ⟨rfl, rfl⟩ := List.cons.inj heq
        rw [if_neg (not_or.mpr ⟨hcontrol, hback⟩)]
        cases lexString? cs <;> rfl
  all_goals cases h : lexString? cs <;> simp [lexString?, namedEscape?, h, unitOf]

/-- A string is read back to the units of its characters, up to its closing quote. -/
theorem lexString?_flatMap (cs : List Char) (rest : List Char) :
    lexString? (cs.flatMap escapeChar ++ '"' :: rest) = some (cs.map unitOf, rest) := by
  induction cs with
  | nil => rfl
  | cons c cs ih =>
    rw [List.flatMap_cons, List.append_assoc, lexString?_escapeChar, ih]
    rfl

/-- **A string is a token.** -/
theorem lexToken?_string (s : String) (rest : List Char) :
    lexToken? (writeString s ++ rest) = some (.string (unitsOf s), rest) := by
  have hshape : writeString s ++ rest = '"' :: (s.toList.flatMap escapeChar ++ '"' :: rest) := by
    simp only [writeString, List.append_assoc, List.cons_append, List.nil_append]
  rw [hshape]
  show (lexString? _).map _ = _
  rw [lexString?_flatMap]
  rfl

/-- The units of characters are decoded to these characters. Surrogates do not come up, as a
character is never half of a pair. -/
theorem decodeUnits?_map_unitOf (cs : List Char) : decodeUnits? (cs.map unitOf) = some cs := by
  induction cs with
  | nil => rfl
  | cons c cs ih =>
    rw [List.map_cons, unitOf]
    split
    · next hcontrol =>
      have htrailing : isTrailing c.toNat = false := by
        simp only [isTrailing, Bool.and_eq_false_iff, decide_eq_false_iff_not]
        omega
      have hleading : isLeading c.toNat = false := by
        simp only [isLeading, Bool.and_eq_false_iff, decide_eq_false_iff_not]
        omega
      rw [decodeUnits?.eq_def]
      simp only [htrailing, hleading, Bool.false_eq_true, if_false, ih, Char.ofNat_toNat]
      rfl
    · simp only [decodeUnits?, ih]
      rfl

/-- The units that a string is written as denote the string. -/
theorem text?_unitsOf (s : String) : text? (unitsOf s) = some s := by
  rw [text?, unitsOf, decodeUnits?_map_unitOf, Option.map_some, String.ofList_toList]

end Json

end FrameSource
