import FrameSource.Proofs.Alignment
import FrameSource.Proofs.Query.Decomposition
import FrameSource.Proofs.Text.Numerals

/-!
# Argument lists

What may be written between the parentheses of an invocation, said without a scanner. An argument
has no comma and no closing parenthesis in it and is `Trimmed`; it may be empty. `Template.Pads` is
an argument among blanks of any kind and number. `Template.Lists` puts such texts together with
commas, and takes a blank text for no arguments. So one empty argument, alone, is the only list of
arguments that cannot be written.

**An argument list is read as what it lists** (`argumentList?_eq_some_iff`): arguments come back as
they were before they were padded and joined, the text behind the closing parenthesis is left as it
is, and whatever is read was listed. A text without a closing parenthesis is not read. The scanner
takes the same lists behind names (`argumentList?_cons_eq_some_iff`).
-/

namespace FrameSource.Template

variable {cs inner part rest : List Char} {args : List String} {arg : String} {c : Char}

/-! ## Lists of arguments, as they are written -/

/-- A text that can be an argument: nothing in it ends it or its list, and it has no blank at either
end. -/
structure IsArgument (arg : String) : Prop where
  noComma : ',' ∉ arg.toList
  noClose : ')' ∉ arg.toList
  trimmed : Text.Trimmed arg.toList

/-- An argument, with any blanks before and after it. -/
inductive Pads (arg : String) : List Char → Prop
  | mk {before after : List Char} (hbefore : Text.allBlank before = true)
      (hafter : Text.allBlank after = true) : Pads arg (before ++ arg.toList ++ after)

/-- The text between the parentheses, and the arguments that it lists. -/
inductive Lists : List Char → List String → Prop
  /-- A blank text lists no arguments, and not one that is empty. -/
  | blank {inner : List Char} (hblank : Text.allBlank inner = true) : Lists inner []
  /-- Arguments have commas between them. -/
  | joined {parts : List (List Char)} {args : List String} (hne : args ≠ []) (hempty : args ≠ [""])
      (hargs : ∀ arg ∈ args, IsArgument arg) (hpads : List.Forall₂ Pads args parts) :
    Lists ([','].intercalate parts) args

/-! ## Parts between commas -/

/-- Splitting is that of the library, so that its laws on joining again may be used. -/
theorem splitCommas_eq_splitOn (cs : List Char) : splitCommas cs = cs.splitOn ',' := by
  induction cs with
  | nil => rfl
  | cons c cs ih =>
    rw [splitCommas, ih, List.splitOn_cons_eq_if_modifyHead]
    by_cases hc : c = ','
    · rw [if_pos hc, if_pos (beq_iff_eq.mpr hc)]
    · rw [if_neg hc, if_neg (mt beq_iff_eq.mp hc)]
      cases hparts : cs.splitOn ',' with
      | nil => exact absurd hparts (List.splitOn_ne_nil ',' cs)
      | cons part parts => rfl

theorem splitCommas_ne_nil (cs : List Char) : splitCommas cs ≠ [] := by
  rw [splitCommas_eq_splitOn]
  exact List.splitOn_ne_nil ',' cs

/-- A text without a comma is its only part. -/
theorem splitCommas_eq_singleton (h : ',' ∉ cs) : splitCommas cs = [cs] := by
  rw [splitCommas_eq_splitOn]
  exact List.splitOn_eq_singleton h

/-- Joining the parts gives the text back. -/
theorem intercalate_splitCommas (cs : List Char) : [','].intercalate (splitCommas cs) = cs := by
  rw [splitCommas_eq_splitOn]
  exact List.intercalate_splitOn ','

/-- Parts without commas are found again where they are joined. -/
theorem splitCommas_intercalate {parts : List (List Char)} (h : ∀ part ∈ parts, ',' ∉ part)
    (hne : parts ≠ []) : splitCommas ([','].intercalate parts) = parts := by
  rw [splitCommas_eq_splitOn]
  exact List.splitOn_intercalate ',' h hne

/-- The parts hold the characters of the text, commas apart. -/
theorem of_mem_splitCommas (hpart : part ∈ splitCommas cs) (hc : c ∈ part) : c ∈ cs ∧ c ≠ ',' := by
  induction cs generalizing part with
  | nil =>
    obtain rfl := List.mem_singleton.mp hpart
    cases hc
  | cons d cs ih =>
    have hlater : ∀ part' ∈ splitCommas cs, c ∈ part' → c ∈ d :: cs ∧ c ≠ ',' :=
      fun part' hpart' hc' => ⟨List.mem_cons_of_mem d (ih hpart' hc').1, (ih hpart' hc').2⟩
    rw [splitCommas] at hpart
    split at hpart
    · obtain rfl | hpart := List.mem_cons.mp hpart
      · cases hc
      · exact hlater part hpart hc
    · next hd =>
      split at hpart
      · next hnil => exact absurd hnil (splitCommas_ne_nil cs)
      · next first parts hparts =>
        obtain rfl | hpart := List.mem_cons.mp hpart
        · obtain rfl | hc := List.mem_cons.mp hc
          · exact ⟨List.mem_cons_self, hd⟩
          · exact hlater first (hparts ▸ List.mem_cons_self) hc
        · exact hlater part (hparts ▸ List.mem_cons_of_mem first hpart) hc

/-- Joining brings in commas only. -/
theorem of_mem_intercalate {parts : List (List Char)} (h : c ∈ [','].intercalate parts) :
    c = ',' ∨ ∃ part ∈ parts, c ∈ part := by
  induction parts with
  | nil => cases h
  | cons part parts ih =>
    cases parts with
    | nil =>
      rw [List.intercalate_singleton] at h
      exact .inr ⟨part, List.mem_cons_self, h⟩
    | cons next parts =>
      rw [List.intercalate_cons_cons, List.mem_append, List.mem_append, List.mem_singleton] at h
      obtain (hpart | rfl) | hrest := h
      · exact .inr ⟨part, List.mem_cons_self, hpart⟩
      · exact .inl rfl
      · exact (ih hrest).imp_right fun ⟨later, hlater, hc⟩ =>
          ⟨later, List.mem_cons_of_mem part hlater, hc⟩

/-! ## Arguments among blanks -/

theorem isBlank_comma : Text.isBlank ',' = false := rfl

theorem isBlank_close : Text.isBlank ')' = false := rfl

/-- Blanks bring nothing else into a part than its argument has. -/
theorem Pads.not_mem (h : Pads arg part) (hc : Text.isBlank c = false) (harg : c ∉ arg.toList) :
    c ∉ part := by
  obtain ⟨hbefore, hafter⟩ := h
  rw [List.mem_append, List.mem_append, not_or, not_or]
  exact ⟨⟨Text.not_mem_of_allBlank hbefore hc, harg⟩, Text.not_mem_of_allBlank hafter hc⟩

/-- An argument is got back from its part by trimming, as it has no blanks at its own ends. -/
theorem Pads.trim_eq (h : Pads arg part) (harg : IsArgument arg) : Text.trim part = arg.toList := by
  obtain ⟨hbefore, hafter⟩ := h
  exact harg.trimmed.trim_eq hbefore hafter

/-- Every text is what trimming leaves of it, among blanks. -/
theorem pads_trim (part : List Char) : Pads (String.ofList (Text.trim part)) part := by
  obtain ⟨before, after, hbefore, hafter, hpart⟩ := Text.exists_eq_append_trim part
  have hpads : Pads (String.ofList (Text.trim part))
      (before ++ (String.ofList (Text.trim part)).toList ++ after) := .mk hbefore hafter
  rwa [String.toList_ofList, ← hpart] at hpads

/-- What trimming leaves of a part is an argument. -/
theorem isArgument_trim (hpart : part ∈ splitCommas inner) (hclose : ')' ∉ inner) :
    IsArgument (String.ofList (Text.trim part)) := by
  obtain ⟨before, after, -, -, hsplit⟩ := Text.exists_eq_append_trim part
  have hkept : ∀ c ∈ Text.trim part, c ∈ inner ∧ c ≠ ',' := by
    intro c hc
    refine of_mem_splitCommas hpart ?_
    rw [hsplit]
    exact List.mem_append_left after (List.mem_append_right before hc)
  constructor
  all_goals rw [String.toList_ofList]
  · exact fun hmem => (hkept ',' hmem).2 rfl
  · exact fun hmem => hclose (hkept ')' hmem).1
  · exact Text.trimmed_trim part

/-! ## Reading a list -/

/-- An argument list holds no closing parenthesis, which is why it ends at the first one. -/
theorem Lists.noClose (h : Lists inner args) : ')' ∉ inner := by
  cases h with
  | blank hblank => exact Text.not_mem_of_allBlank hblank isBlank_close
  | joined _ _ hargs hpads =>
    intro hmem
    obtain hcomma | ⟨part, hpart, hmem⟩ := of_mem_intercalate hmem
    · cases hcomma
    · obtain ⟨arg, harg, hpad⟩ := forall₂_exists_left hpads hpart
      exact hpad.not_mem isBlank_close (hargs arg harg).noClose hmem

/-- The arguments of a text whose parts are arguments among blanks. A blank text would be its only
part, and its argument empty. -/
theorem arguments_eq_of_pads (hempty : args ≠ [""]) (hargs : ∀ arg ∈ args, IsArgument arg)
    (hpads : List.Forall₂ Pads args (splitCommas inner)) : arguments inner = args := by
  have hnotBlank : ¬ Text.allBlank inner = true := by
    intro hblank
    rw [splitCommas_eq_singleton (Text.not_mem_of_allBlank hblank isBlank_comma)] at hpads
    cases hpads with
    | @cons arg _ _ _ hpad hnone =>
      cases hnone
      have htrim := hpad.trim_eq (hargs arg List.mem_cons_self)
      rw [Text.trim_eq_nil_iff.mpr hblank] at htrim
      exact hempty (by rw [String.toList_eq_nil_iff.mp htrim.symm])
  have hread : List.Forall₂ (fun arg part => arg = String.ofList (Text.trim part)) args
      (splitCommas inner) := by
    refine forall₂_imp_mem hpads fun arg harg part hpad => ?_
    rw [hpad.trim_eq (hargs arg harg), String.ofList_toList]
  rw [arguments, if_neg hnotBlank, eq_comm, ← List.forall₂_eq_eq_eq, List.forall₂_map_right_iff]
  exact hread

/-- A list is read as the arguments that it lists. -/
theorem Lists.arguments_eq (h : Lists inner args) : arguments inner = args := by
  cases h with
  | blank hblank => rw [arguments, if_pos hblank]
  | @joined parts _ hne hempty hargs hpads =>
    have hcommas : ∀ part ∈ parts, ',' ∉ part := by
      intro part hpart
      obtain ⟨arg, harg, hpad⟩ := forall₂_exists_left hpads hpart
      exact hpad.not_mem isBlank_comma (hargs arg harg).noComma
    have hparts : parts ≠ [] := by
      rintro rfl
      cases hpads
      exact hne rfl
    refine arguments_eq_of_pads hempty hargs ?_
    rwa [splitCommas_intercalate hcommas hparts]

/-- Every text up to a closing parenthesis is a list, of the arguments that are read. -/
theorem lists_arguments (h : ')' ∉ inner) : Lists inner (arguments inner) := by
  by_cases hblank : Text.allBlank inner = true
  · rw [arguments, if_pos hblank]
    exact .blank hblank
  · have hlists : Lists ([','].intercalate (splitCommas inner))
        ((splitCommas inner).map fun part => String.ofList (Text.trim part)) := by
      refine .joined ?_ ?_ ?_ ?_
      · exact mt List.map_eq_nil_iff.mp (splitCommas_ne_nil inner)
      · -- one empty argument would be trimmed from a blank text
        intro hempty
        obtain ⟨part, hsplit, htrim⟩ := List.map_eq_singleton_iff.mp hempty
        have hpart : inner = part := by
          rw [← intercalate_splitCommas inner, hsplit, List.intercalate_singleton]
        rw [hpart] at hblank
        exact hblank (Text.trim_eq_nil_iff.mp (String.ofList_eq_empty_iff.mp htrim))
      · exact List.forall_mem_map.mpr fun part hpart => isArgument_trim hpart h
      · rw [List.forall₂_map_left_iff, List.forall₂_same]
        exact fun part _ => pads_trim part
    rw [intercalate_splitCommas] at hlists
    rwa [arguments, if_neg hblank]

/-- The lists that the scanner takes behind names are those that are read. -/
theorem argumentList?_cons_eq_some_iff :
    argumentList? ('(' :: cs) = some (args, rest) ↔
      ∃ taken, Takes ('(' :: cs) taken (some args) rest := by
  constructor
  · exact takes_of_closeArguments?
  · rintro ⟨taken, htakes⟩
    cases hclose : closeArguments? cs with
    | none => cases (htakes.unique (takes_of_closeArguments?_none hclose)).2.1
    | some read =>
      obtain ⟨taken', htakes'⟩ := takes_of_closeArguments? hclose
      obtain ⟨-, hargs, hrest⟩ := htakes.unique htakes'
      rw [argumentList?, hclose, Option.some.inj hargs, hrest]

/-- **Argument lists are read as what they list.** The list goes up to the first closing parenthesis,
and what follows is left as it is. No other text is read. -/
theorem argumentList?_eq_some_iff :
    argumentList? cs = some (args, rest) ↔
      ∃ inner, cs = '(' :: (inner ++ ')' :: rest) ∧ Lists inner args := by
  constructor
  · intro h
    unfold argumentList? at h
    split at h
    · obtain ⟨taken, htakes⟩ := takes_of_closeArguments? h
      cases htakes with
      | bare hopen => exact absurd rfl hopen
      | @closed inner _ hclose => exact ⟨inner, rfl, lists_arguments hclose⟩
    · cases h
  · rintro ⟨inner, rfl, hlists⟩
    have htakes := @Takes.closed inner rest hlists.noClose
    rw [hlists.arguments_eq] at htakes
    exact argumentList?_cons_eq_some_iff.mpr ⟨_, htakes⟩

/-- Blanks of several kinds, an empty argument between two others, and a second parenthesis. -/
example : argumentList? "(\u3000a b ,\u00a0,\tc\u2028) (d)".toList =
    some (["a b", "", "c"], " (d)".toList) := by decide

end FrameSource.Template
