import FrameSource.Datasource.Instance
import FrameSource.Proofs.Number.Arithmetic
import FrameSource.Proofs.Text.Numerals

/-!
# What stored numbers denote

A host stores a number as a number or as a text, and a blank text stands for no number. Which integer
is denoted is a relation here, and loading a stored number is proved to compute it: it gives the
integer that is denoted, and complains exactly when none is.
-/

namespace FrameSource

namespace HostNumber

/-- The integer that a stored number denotes, if it denotes any: that of a number is the number
itself; that of a text stands between blanks, and a text of blanks alone denotes that nothing is
set. -/
inductive Denotes : HostNumber → Option ℤ → Prop where
  | number {s : Bool} {m : ℕ} {q n : ℤ} (whole : (Floating.finite s m q : Double).value = n)
      (fits : -2 ^ 63 ≤ n ∧ n < 2 ^ 63) : Denotes (.number (.finite s m q)) (some n)
  | blank {s : String} (blank : ∀ c ∈ s.toList, Text.isBlank c = true) : Denotes (.text s) none
  | text {s : String} {b₁ cs b₂ : List Char} {n : ℤ} (written : s.toList = b₁ ++ cs ++ b₂)
      (before : Text.allBlank b₁ = true) (after : Text.allBlank b₂ = true)
      (read : Text.readInt? cs = some n) (fits : -2 ^ 63 ≤ n ∧ n < 2 ^ 63) :
      Denotes (.text s) (some n)

/-- A stored number as a complaint shows it. -/
def shown : HostNumber → String
  | .number x => x.spell .plain
  | .text s => s

variable {h : HostNumber} {n : Option ℤ} {field : String} {e : SettingsError}

/-- A number that denotes an integer is converted to it, and one that denotes nothing to nothing. -/
theorem toInt_of_denotes (hd : h.Denotes n) : h.toInt field = .ok n := by
  cases hd with
  | number whole fits =>
    have hread : (Floating.toInt? _).filter Text.inInt64 = some _ :=
      Option.filter_eq_some_iff.mpr
        ⟨(Floating.toInt?_finite _ _ _ _).mpr whole, Text.inInt64_iff.mpr fits⟩
    simp only [toInt, hread]
  | blank hblank =>
    have hall : Text.isBlankText _ = true := List.all_eq_true.mpr hblank
    simp only [toInt, hall, if_true]
  | @text s _ _ _ k written before after read fits =>
    obtain ⟨hne, hnone⟩ := Text.of_readInt? read
    have hall : Text.isBlankText s = false := by
      obtain ⟨c, r, rfl⟩ := List.exists_cons_of_ne_nil hne
      rw [Text.isBlankText, written, Text.allBlank, List.all_append, List.all_append, List.all_cons,
        hnone c List.mem_cons_self]
      simp
    have hread : Text.readInt64? (Text.trim s.toList) = some k := by
      rw [written, Text.trim_append before after hne hnone]
      exact Option.filter_eq_some_iff.mpr ⟨read, Text.inInt64_iff.mpr fits⟩
    simp only [toInt, hall, Bool.false_eq_true, if_false, hread]

/-- There is no third case besides the two: a number denotes, or it is complained about as it is
shown. -/
theorem denotes_or_complains (h : HostNumber) (field : String) :
    (∃ n, h.Denotes n) ∨ h.toInt field = .error (.invalidNumber field h.shown) := by
  cases h with
  | number x =>
    cases hread : x.toInt?.filter Text.inInt64 with
    | some n =>
      obtain ⟨hwhole, hfits⟩ := Option.filter_eq_some_iff.mp hread
      cases x with
      | nan => cases hwhole
      | infinite s => cases hwhole
      | finite s m q =>
        exact Or.inl ⟨some n, .number ((Floating.toInt?_finite s m q n).mp hwhole)
          (Text.inInt64_iff.mp hfits)⟩
    | none =>
      right
      simp only [toInt, hread, shown]
  | text s =>
    by_cases hall : Text.isBlankText s = true
    · exact Or.inl ⟨none, .blank (List.all_eq_true.mp hall)⟩
    · cases hread : Text.readInt64? (Text.trim s.toList) with
      | some n =>
        obtain ⟨hint, hfits⟩ := Option.filter_eq_some_iff.mp hread
        obtain ⟨b₁, b₂, hbefore, hafter, hwritten⟩ := Text.exists_eq_append_trim s.toList
        exact Or.inl ⟨some n, .text hwritten hbefore hafter hint (Text.inInt64_iff.mp hfits)⟩
      | none =>
        right
        simp only [toInt, if_neg hall, hread, shown]

/-- The exact complaint, which shows the number in the words of the host. -/
theorem toInt_eq_error_iff :
    h.toInt field = .error e ↔ (∀ n, ¬ h.Denotes n) ∧ e = .invalidNumber field h.shown := by
  constructor
  · intro herror
    obtain ⟨m, hm⟩ | hcomplains := h.denotes_or_complains field
    · rw [toInt_of_denotes hm] at herror
      cases herror
    · rw [hcomplains] at herror
      cases herror
      refine ⟨fun n hn => ?_, rfl⟩
      rw [toInt_of_denotes hn] at hcomplains
      cases hcomplains
  · rintro ⟨hnone, rfl⟩
    obtain ⟨m, hm⟩ | hcomplains := h.denotes_or_complains field
    · exact absurd hm (hnone m)
    · exact hcomplains

/-- What a number denotes is within the range of the machine's signed words, whatever its form. -/
theorem Denotes.fits {k : ℤ} (hd : h.Denotes (some k)) : -2 ^ 63 ≤ k ∧ k < 2 ^ 63 := by
  cases hd with
  | number _ fits => exact fits
  | text _ _ _ _ fits => exact fits

/-- A number of one form denotes one integer, so that fields that are told by it are determined. -/
theorem Denotes.unique {n' : Option ℤ} (hd : h.Denotes n) (hd' : h.Denotes n') : n = n' := by
  have hok : h.toInt "" = .ok n := toInt_of_denotes hd
  rw [toInt_of_denotes hd'] at hok
  exact (Except.ok.inj hok).symm

/-- Where a number must not be negative, a negative one is refused in its shortest spelling. -/
theorem toNat_eq (hd : h.Denotes n) :
    h.toNat field =
      match n with
      | none => .ok none
      | some k => if k < 0 then .error (.invalidNumber field (Text.intText k)) else .ok (some k.toNat) := by
  unfold toNat
  rw [toInt_of_denotes hd]
  cases n with
  | none => rfl
  | some k =>
    by_cases hk : k < 0
    · simp only [if_pos hk]
      exact if_pos hk
    · simp only [if_neg hk]
      exact if_neg hk

theorem toNat_of_not_denotes (hd : ∀ n, ¬ h.Denotes n) :
    h.toNat field = .error (.invalidNumber field h.shown) := by
  unfold toNat
  rw [toInt_eq_error_iff.mpr ⟨hd, rfl⟩]
  rfl

end HostNumber

end FrameSource
