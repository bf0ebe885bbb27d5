import FrameSource.Query.Template
import Mathlib.Data.List.TakeWhile

/-!
# How a template falls apart

What a template invokes, said of the text alone. A position of a template is a suffix of it, and
`Named` says what an invocation starts with: the marker and the longest identifier after it, which
is a known name. `Spanned` adds the span: the argument list up to its first closing parenthesis, if
an opening one follows at once. A `Decomposition` is literal text and spans in turn, and
`Decomposes` asks that no invocation starts inside the literal text.

**A template has exactly one decomposition**: at most one (`Decomposes.unique`), and the scanner
finds one, whose literal texts its pieces cut up (`exists_decomposes`). Nothing is said here of what
invocations expand to; `Proofs.Query.Expansion` does that.
-/

namespace FrameSource.Template

/-! ## Names -/

/-- An identifier: a character that a name may start with, and characters that it may go on with. -/
def IsName : List Char → Prop
  | [] => False
  | c :: cs => isNameStart c = true ∧ ∀ d ∈ cs, isNameChar d = true

theorem isNameChar_of_isNameStart {c : Char} (h : isNameStart c = true) : isNameChar c = true := by
  simp only [isNameStart, isNameChar, Char.isAlphanum, Bool.or_eq_true] at h ⊢
  rcases h with h | h
  · exact Or.inl (Or.inl h)
  · exact Or.inr h

theorem isNameChar_of_isName {name : List Char} (h : IsName name) :
    ∀ c ∈ name, isNameChar c = true := by
  cases name with
  | nil => exact h.elim
  | cons c cs =>
    intro d hd
    rcases List.mem_cons.mp hd with rfl | hd
    · exact isNameChar_of_isNameStart h.1
    · exact h.2 d hd

/-- The scanner takes the longest identifier: a name that cannot go on is what it reads. -/
theorem leadingName_append {name rest : List Char} (hn : IsName name)
    (hr : ∀ c ∈ rest.head?, isNameChar c = false) : leadingName (name ++ rest) = name := by
  cases name with
  | nil => exact hn.elim
  | cons c cs =>
    have hstop : rest.takeWhile isNameChar = [] := by
      cases rest with
      | nil => rfl
      | cons d ds => simp [hr d (by simp)]
    simp only [List.cons_append, leadingName, hn.1, if_true, List.takeWhile_append_of_pos hn.2,
      hstop, List.append_nil]

/-- The scanner drops as many characters as it has taken, which is to drop those that it took. -/
theorem drop_length_takeWhile (p : Char → Bool) (cs : List Char) :
    cs.drop (cs.takeWhile p).length = cs.dropWhile p := by
  calc cs.drop (cs.takeWhile p).length
      = (cs.takeWhile p ++ cs.dropWhile p).drop (cs.takeWhile p).length := by
        rw [List.takeWhile_append_dropWhile]
    _ = cs.dropWhile p := List.drop_left

/-- What the scanner reads is an identifier, in front of what cannot go on with it. -/
theorem leadingName_spec {cs : List Char} (h : leadingName cs ≠ []) :
    IsName (leadingName cs) ∧ cs = leadingName cs ++ cs.drop (leadingName cs).length ∧
      ∀ c ∈ (cs.drop (leadingName cs).length).head?, isNameChar c = false := by
  cases cs with
  | nil => exact absurd rfl h
  | cons c cs =>
    by_cases hc : isNameStart c = true
    · have hname : leadingName (c :: cs) = c :: cs.takeWhile isNameChar := by
        simp only [leadingName, hc, if_true]
      have hdrop : (c :: cs).drop (leadingName (c :: cs)).length = cs.dropWhile isNameChar := by
        rw [hname, List.length_cons, List.drop_succ_cons]
        exact drop_length_takeWhile isNameChar cs
      refine ⟨?_, ?_, ?_⟩
      · rw [hname]
        exact ⟨hc, fun d hd => List.mem_takeWhile_imp hd⟩
      · rw [hdrop, hname, List.cons_append, List.takeWhile_append_dropWhile]
      · rw [hdrop]
        intro d hd
        have hnot := List.head?_dropWhile_not isNameChar cs
        rw [Option.mem_def.mp hd] at hnot
        simpa using hnot
    · simp only [leadingName, hc] at h
      exact absurd rfl h

/-! ## Invocations -/

/-- An invocation of `name` starts at the front of `cs`: the marker, and the longest identifier
after it, which is known. `tail` follows the name. -/
structure Named (known : String → Bool) (cs name tail : List Char) : Prop where
  split : cs = marker ++ name ++ tail
  isName : IsName name
  longest : ∀ c ∈ tail.head?, isNameChar c = false
  isKnown : known (String.ofList name) = true

/-- An invocation starts at the front of `cs`. -/
def Starts (known : String → Bool) (cs : List Char) : Prop :=
  ∃ name tail, Named known cs name tail

/-- What an invocation takes of the text after its name, its arguments, and what follows. Arguments
are `none` where the list has no end; such a list takes the whole text. -/
inductive Takes : List Char → List Char → Option (List String) → List Char → Prop
  /-- No parenthesis follows at once: nothing is taken. -/
  | bare {rest : List Char} (h : rest.head? ≠ some '(') : Takes rest [] (some []) rest
  /-- The list goes up to the first closing parenthesis. -/
  | closed {inner rest : List Char} (h : ')' ∉ inner) :
    Takes ('(' :: (inner ++ ')' :: rest)) ('(' :: (inner ++ [')'])) (some (arguments inner)) rest
  /-- No closing parenthesis follows. -/
  | unended {inner : List Char} (h : ')' ∉ inner) : Takes ('(' :: inner) ('(' :: inner) none []

/-- An invocation as it stands in a template: its span, the known name, and the arguments; none if
the argument list has no end. -/
structure Invocation where
  span : List Char
  name : String
  args : Option (List String)

/-- The piece that the scanner makes of an invocation. -/
def Invocation.piece (i : Invocation) : Piece :=
  match i.args with
  | some args => .invocation i.name args
  | none => .unterminated i.name

/-- `cs` begins with the span of an invocation, and `rest` follows it. -/
inductive Spanned (known : String → Bool) (cs : List Char) : Invocation → List Char → Prop
  | mk {name tail taken rest : List Char} {args : Option (List String)}
      (start : Named known cs name tail) (list : Takes tail taken args rest) :
    Spanned known cs ⟨marker ++ name ++ taken, String.ofList name, args⟩ rest

theorem Takes.eq_append {tail taken rest : List Char} {args : Option (List String)}
    (h : Takes tail taken args rest) : tail = taken ++ rest := by
  cases h <;> simp

theorem Spanned.eq_append {known : String → Bool} {cs rest : List Char} {i : Invocation}
    (h : Spanned known cs i rest) : cs = i.span ++ rest := by
  obtain ⟨start, list⟩ := h
  rw [start.split, list.eq_append, List.append_assoc _ _ rest]

theorem Spanned.starts {known : String → Bool} {cs rest : List Char} {i : Invocation}
    (h : Spanned known cs i rest) : Starts known cs := by
  obtain ⟨start, _⟩ := h
  exact ⟨_, _, start⟩

theorem Starts.head {known : String → Bool} {c : Char} {cs : List Char}
    (h : Starts known (c :: cs)) : c = '$' := by
  obtain ⟨name, tail, start⟩ := h
  have := start.split
  simp only [marker, List.cons_append] at this
  exact (List.cons.inj this).1

theorem not_starts_nil (known : String → Bool) : ¬ Starts known [] := by
  rintro ⟨name, tail, start⟩
  have := start.split
  simp [marker] at this

/-! ### What starts at the front of a text is determined -/

/-- One invocation starts at a position, since a name is the longest identifier behind the marker. -/
theorem Named.unique {known : String → Bool} {cs name tail name' tail' : List Char}
    (h : Named known cs name tail) (h' : Named known cs name' tail') :
    name = name' ∧ tail = tail' := by
  have htext : name ++ tail = name' ++ tail' := by
    have := h.split.symm.trans h'.split
    rw [List.append_assoc, List.append_assoc] at this
    exact List.append_cancel_left this
  have hname : name = name' := by
    rw [← leadingName_append h.isName h.longest, htext, leadingName_append h'.isName h'.longest]
  subst hname
  exact ⟨rfl, List.append_cancel_left htext⟩

/-- A cut after the start of an invocation is behind its name, or what follows the cut goes on with
the invocation. -/
theorem Named.cut {known : String → Bool} {front back name tail : List Char}
    (h : Named known (front ++ back) name tail) (hfront : front ≠ []) :
    (∃ tail', front = marker ++ name ++ tail' ∧ tail = tail' ++ back) ∨
      ∃ c ∈ back.head?, c = '_' ∨ c ∈ name := by
  rcases List.append_eq_append_iff.mp h.split with ⟨cut, hcut, hback⟩ | ⟨tail', hsplit, htail⟩
  · cases cut with
    | nil => exact .inl ⟨[], by simpa using hcut.symm, by simpa using hback.symm⟩
    | cons c cut =>
      obtain ⟨d, front, rfl⟩ := List.exists_cons_of_ne_nil hfront
      have hmem : c ∈ (marker ++ name).tail := by simp [hcut]
      exact .inr ⟨c, by simp [hback], by simpa [marker] using hmem⟩
  · exact .inl ⟨tail', hsplit, htail⟩

/-- The first closing parenthesis of a text stands at one place. -/
theorem closing_unique {inner inner' rest rest' : List Char} (h : ')' ∉ inner) (h' : ')' ∉ inner')
    (heq : inner ++ ')' :: rest = inner' ++ ')' :: rest') : inner = inner' ∧ rest = rest' := by
  rcases List.append_eq_append_iff.mp heq with ⟨more, hinner, htail⟩ | ⟨more, hinner, htail⟩
  · cases more with
    | nil => exact ⟨by simpa using hinner.symm, by simpa using htail⟩
    | cons c more =>
      obtain ⟨rfl, _⟩ := List.cons.inj htail
      exact absurd (by simp [hinner]) h'
  · cases more with
    | nil => exact ⟨by simpa using hinner, by simpa using htail.symm⟩
    | cons c more =>
      obtain ⟨rfl, _⟩ := List.cons.inj htail
      exact absurd (by simp [hinner]) h

/-- What an invocation takes is determined by the text behind its name. The first closing
parenthesis is the only one that a list without any inside can end at. -/
theorem Takes.unique {tail taken taken' rest rest' : List Char} {args args' : Option (List String)}
    (h : Takes tail taken args rest) (h' : Takes tail taken' args' rest') :
    taken = taken' ∧ args = args' ∧ rest = rest' := by
  cases h with
  | bare h =>
    cases h' with
    | bare => exact ⟨rfl, rfl, rfl⟩
    | closed | unended => exact absurd rfl h
  | @closed inner rest h =>
    generalize ht : '(' :: (inner ++ ')' :: rest) = tail at h'
    cases h' with
    | bare h' => exact absurd (by rw [← ht]; rfl) h'
    | @closed inner' rest' h' =>
      obtain ⟨rfl, rfl⟩ := closing_unique h h' (List.cons.inj ht).2
      exact ⟨rfl, rfl, rfl⟩
    | @unended inner' h' =>
      rw [← (List.cons.inj ht).2] at h'
      exact absurd (by simp) h'
  | @unended inner h =>
    generalize ht : '(' :: inner = tail at h'
    cases h' with
    | bare h' => exact absurd (by rw [← ht]; rfl) h'
    | @closed inner' rest' h' =>
      rw [(List.cons.inj ht).2] at h
      exact absurd (by simp) h
    | unended =>
      obtain rfl := (List.cons.inj ht).2
      exact ⟨rfl, rfl, rfl⟩

theorem Spanned.unique {known : String → Bool} {cs rest rest' : List Char} {i i' : Invocation}
    (h : Spanned known cs i rest) (h' : Spanned known cs i' rest') : i = i' ∧ rest = rest' := by
  obtain ⟨start, list⟩ := h
  obtain ⟨start', list'⟩ := h'
  obtain ⟨rfl, rfl⟩ := start.unique start'
  obtain ⟨rfl, rfl, rfl⟩ := list.unique list'
  exact ⟨rfl, rfl⟩

/-! ## Decompositions -/

/-- No invocation starts inside `text`, which stands in front of `rest`. -/
def Silent (known : String → Bool) (text rest : List Char) : Prop :=
  ∀ front back, text = front ++ back → back ≠ [] → ¬ Starts known (back ++ rest)

/-- Literal texts, each with the invocation that follows it, and the literal text at the end. -/
structure Decomposition where
  stretches : List (List Char × Invocation)
  last : List Char

namespace Decomposition

/-- The invocations in order. -/
def invocations (d : Decomposition) : List Invocation :=
  d.stretches.map Prod.snd

/-- The text that falls apart so. -/
def text (d : Decomposition) : List Char :=
  d.stretches.foldr (fun s rest => s.1 ++ s.2.span ++ rest) d.last

/-- The text with other texts in place of the spans. -/
def splice (d : Decomposition) (texts : List String) : List Char :=
  (d.stretches.zip texts).foldr (fun s rest => s.1.1 ++ s.2.toList ++ rest) d.last

/-- A decomposition with more literal text in front. -/
def prepend (text : List Char) : Decomposition → Decomposition
  | ⟨[], last⟩ => ⟨[], text ++ last⟩
  | ⟨s :: stretches, last⟩ => ⟨(text ++ s.1, s.2) :: stretches, last⟩

/-- The literal texts and invocations as pieces. -/
def pieces (d : Decomposition) : List Piece :=
  d.stretches.foldr (fun s rest => .literal s.1 :: s.2.piece :: rest) [.literal d.last]

variable (s : List Char × Invocation) (stretches : List (List Char × Invocation))
  (last : List Char)

theorem pieces_cons : pieces ⟨s :: stretches, last⟩ =
    .literal s.1 :: s.2.piece :: pieces ⟨stretches, last⟩ := rfl

theorem splice_cons (text : String) (texts : List String) :
    splice ⟨s :: stretches, last⟩ (text :: texts) =
      s.1 ++ text.toList ++ splice ⟨stretches, last⟩ texts := rfl

end Decomposition

/-- `d` decomposes `cs`: its invocations are spans where they stand, and no invocation starts inside
its literal texts. -/
inductive Decomposes (known : String → Bool) : List Char → Decomposition → Prop
  | last {text : List Char} (silent : Silent known text []) : Decomposes known text ⟨[], text⟩
  | stretch {text cs rest : List Char} {i : Invocation} {d : Decomposition}
      (silent : Silent known text cs) (spanned : Spanned known cs i rest)
      (more : Decomposes known rest d) :
    Decomposes known (text ++ cs) ⟨(text, i) :: d.stretches, d.last⟩

variable {known : String → Bool}

/-- A decomposition keeps all of the text: literal texts and spans, put together, give it back. -/
theorem Decomposes.text_eq {cs : List Char} {d : Decomposition} (h : Decomposes known cs d) :
    d.text = cs := by
  induction h with
  | last => rfl
  | @stretch text cs rest i d _ spanned _ ih =>
    rw [spanned.eq_append, ← ih]
    simp only [Decomposition.text, List.foldr_cons, List.append_assoc]

/-- Only known names are invoked. -/
theorem Decomposes.isKnown {cs : List Char} {d : Decomposition}
    (h : Decomposes known cs d) : ∀ i ∈ d.invocations, known i.name = true := by
  induction h with
  | last => exact nofun
  | stretch _ spanned _ ih =>
    refine List.forall_mem_cons.mpr ⟨?_, ih⟩
    obtain ⟨start, _⟩ := spanned
    exact start.isKnown

/-- Two silent texts in front of invocations are the same: an invocation that starts inside a longer
one would break its silence. -/
theorem Silent.unique {text text' cs cs' : List Char} (h : Silent known text cs)
    (h' : Silent known text' cs') (hs : Starts known cs) (hs' : Starts known cs')
    (heq : text ++ cs = text' ++ cs') : text = text' ∧ cs = cs' := by
  -- One text is the beginning of the other, and what it lacks would begin with an invocation.
  rcases List.append_eq_append_iff.mp heq with ⟨more, htext, hcs⟩ | ⟨more, htext, hcs⟩
  · by_cases hm : more = []
    · subst hm
      exact ⟨by simpa using htext.symm, by simpa using hcs⟩
    · exact absurd (hcs ▸ hs) (h' text more htext hm)
  · by_cases hm : more = []
    · subst hm
      exact ⟨by simpa using htext, by simpa using hcs.symm⟩
    · exact absurd (hcs ▸ hs') (h text' more htext hm)

theorem Silent.not_starts_suffix {text cs : List Char} (h : Silent known (text ++ cs) [])
    (hs : Starts known cs) : False := by
  have hne : cs ≠ [] := by
    rintro rfl
    exact not_starts_nil known hs
  exact h text cs rfl hne (by rwa [List.append_nil])

/-- **A text has at most one decomposition.** -/
theorem Decomposes.unique {cs : List Char} {d d' : Decomposition} (h : Decomposes known cs d)
    (h' : Decomposes known cs d') : d = d' := by
  induction h generalizing d' with
  | @last text silent =>
    generalize ht : text = cs at h'
    cases h' with
    | last => rfl
    | stretch _ spanned _ =>
      subst ht
      exact (silent.not_starts_suffix spanned.starts).elim
  | @stretch text cs rest i d silent spanned _ ih =>
    generalize ht : text ++ cs = whole at h'
    cases h' with
    | last silent' =>
      subst ht
      exact (silent'.not_starts_suffix spanned.starts).elim
    | stretch silent' spanned' more' =>
      obtain ⟨rfl, rfl⟩ := silent.unique silent' spanned.starts spanned'.starts ht
      obtain ⟨rfl, rfl⟩ := spanned.unique spanned'
      rw [ih more']

/-! ## The scanner finds the decomposition -/

/-- Text is silent when no invocation starts at its front and the marker's first character does not
come again. -/
theorem silent_cons {c : Char} {text rest : List Char} (h : ¬ Starts known (c :: text ++ rest))
    (htext : '$' ∉ text) : Silent known (c :: text) rest := by
  intro front back heq hback hs
  cases front with
  | nil =>
    rw [heq, List.nil_append] at h
    exact h hs
  | cons d front =>
    obtain ⟨rfl, rfl⟩ := List.cons.inj heq
    obtain ⟨e, back, rfl⟩ := List.exists_cons_of_ne_nil hback
    obtain rfl := hs.head
    exact htext (by simp)

/-- Two silent texts in a row are silent, if the first one is so in front of the second. -/
theorem Silent.append {text text' rest : List Char} (h : Silent known text (text' ++ rest))
    (h' : Silent known text' rest) : Silent known (text ++ text') rest := by
  intro front back heq hback
  rcases List.append_eq_append_iff.mp heq with ⟨more, _, htext'⟩ | ⟨more, htext, hb⟩
  · exact h' more back htext' hback
  · by_cases hm : more = []
    · subst hm
      exact h' [] back (by simpa using hb.symm) hback
    · rw [hb, List.append_assoc]
      exact h front more htext hm

theorem Named.leadingName_eq {cs name tail : List Char} (h : Named known (marker ++ cs) name tail) :
    leadingName cs = name := by
  have hcs : cs = name ++ tail := by
    have := h.split
    rw [List.append_assoc] at this
    exact List.append_cancel_left this
  rw [hcs, leadingName_append h.isName h.longest]

/-- The scanner's argument list is the one that an invocation takes. -/
theorem takes_of_closeArguments? {inner rest : List Char} {args : List String}
    (h : closeArguments? inner = some (args, rest)) :
    ∃ taken, Takes ('(' :: inner) taken (some args) rest := by
  unfold closeArguments? at h
  split at h
  · cases h
  · rename_i c after hc
    cases h
    have hclose : c = ')' := by
      have := List.head?_dropWhile_not (fun c => decide (c ≠ ')')) inner
      rw [hc] at this
      simpa using this
    subst hclose
    have hsplit : inner = inner.takeWhile (· ≠ ')') ++ ')' :: rest := by
      rw [← hc, List.takeWhile_append_dropWhile]
    have hnone : ')' ∉ inner.takeWhile (· ≠ ')') := fun hmem => by
      simpa using List.mem_takeWhile_imp hmem
    refine ⟨'(' :: (inner.takeWhile (· ≠ ')') ++ [')']), ?_⟩
    conv => arg 1; rw [hsplit]
    exact .closed hnone

/-- Where the scanner finds no end of the list, the invocation takes all of the text. -/
theorem takes_of_closeArguments?_none {inner : List Char} (h : closeArguments? inner = none) :
    Takes ('(' :: inner) ('(' :: inner) none [] := by
  unfold closeArguments? at h
  split at h
  · rename_i hc
    refine .unended fun hmem => ?_
    have := List.dropWhile_eq_nil_iff.mp hc ')' hmem
    simp at this
  · cases h

/-- What the scanner does after a marker: it copies the marker and what it read of a name, or makes
the piece of the invocation that starts at the marker. -/
theorem afterMarker_cases (known : String → Bool) (cs : List Char) :
    (∃ text, cs = text ++ (afterMarker known cs).2.val ∧ (∀ c ∈ text, isNameChar c = true) ∧
      ¬ Starts known (marker ++ cs) ∧ (afterMarker known cs).1 = .literal (marker ++ text)) ∨
    (∃ i, Spanned known (marker ++ cs) i (afterMarker known cs).2.val ∧
      (afterMarker known cs).1 = i.piece) := by
  by_cases hnil : leadingName cs = []
  · left
    refine ⟨[], ?_, by simp, ?_, ?_⟩
    · simp [afterMarker, hnil]
    -- An invocation would have a name here, and the scanner would have read it.
    · rintro ⟨name, tail, start⟩
      have hname := start.isName
      rw [← start.leadingName_eq, hnil] at hname
      exact hname
    · simp [afterMarker, hnil]
  · obtain ⟨hname, hsplit, hlongest⟩ := leadingName_spec hnil
    by_cases hknown : known (String.ofList (leadingName cs)) = true
    · right
      have start : Named known (marker ++ cs) (leadingName cs)
          (cs.drop (leadingName cs).length) := by
        refine ⟨?_, hname, hlongest, hknown⟩
        rw [List.append_assoc, ← hsplit]
      unfold afterMarker
      simp only [hnil, if_false, hknown, if_true]
      split
      · rename_i inner hrest
        change cs.drop (leadingName cs).length = '(' :: inner at hrest
        rw [hrest] at start
        split
        · rename_i args after hclose
          obtain ⟨taken, list⟩ := takes_of_closeArguments? hclose
          exact ⟨_, ⟨start, list⟩, rfl⟩
        · rename_i hclose
          exact ⟨_, ⟨start, takes_of_closeArguments?_none hclose⟩, rfl⟩
      · rename_i hrest
        refine ⟨_, ⟨start, .bare fun hhead => ?_⟩, rfl⟩
        obtain ⟨inner, hinner⟩ := List.head?_eq_some_iff.mp hhead
        exact hrest inner hinner
    · left
      refine ⟨leadingName cs, ?_, isNameChar_of_isName hname, ?_, ?_⟩
      · simpa [afterMarker, hnil, hknown] using hsplit
      · rintro ⟨name, tail, start⟩
        have := start.isKnown
        rw [← start.leadingName_eq] at this
        exact hknown this
      · simp [afterMarker, hnil, hknown]

theorem dollar_not_isNameChar : isNameChar '$' = false := by decide

/-- **One step of the scanner**: it cuts off silent text, or the span of an invocation. -/
theorem pieces_step (known : String → Bool) {cs : List Char} (h : cs ≠ []) :
    (∃ text rest, cs = text ++ rest ∧ text ≠ [] ∧ Silent known text rest ∧
      pieces known cs = .literal text :: pieces known rest) ∨
    (∃ i rest, Spanned known cs i rest ∧ pieces known cs = i.piece :: pieces known rest) := by
  rw [pieces.eq_def]
  split
  · rename_i cs
    rcases afterMarker_cases known cs with ⟨text, hcs, hchars, hstarts, hpiece⟩ | ⟨i, hi, hpiece⟩
    · refine .inl ⟨marker ++ text, (afterMarker known cs).2.val, ?_, by simp [marker], ?_, ?_⟩
      · rw [List.append_assoc, ← hcs]
        rfl
      · refine silent_cons ?_ ?_
        · rw [hcs] at hstarts
          exact hstarts
        · intro hmem
          have hmem' : '$' ∈ text := by simpa using hmem
          simpa [dollar_not_isNameChar] using hchars _ hmem'
      · show (afterMarker known cs).1 :: pieces known (afterMarker known cs).2.val = _
        rw [hpiece]
    · refine .inr ⟨i, (afterMarker known cs).2.val, hi, ?_⟩
      show (afterMarker known cs).1 :: pieces known (afterMarker known cs).2.val = _
      rw [hpiece]
  · rename_i c cs hmarker
    refine .inl ⟨[c], cs, rfl, by simp, silent_cons ?_ (by simp), rfl⟩
    -- The scanner looks at two characters, and an invocation starts with both of the marker.
    rintro ⟨name, tail, start⟩
    have := start.split
    simp only [marker, List.cons_append, List.nil_append, List.cons.injEq] at this
    exact hmarker (name ++ tail) this.1 this.2
  · exact absurd rfl h

/-- The second list is the first with neighbouring literal texts put together, and perhaps empty
texts between invocations. -/
inductive Merges : List Piece → List Piece → Prop
  | nil : Merges [] []
  | cons {p : Piece} {ps qs : List Piece} (h : Merges ps qs) : Merges (p :: ps) (p :: qs)
  | join {text text' : List Char} {ps qs : List Piece} (h : Merges ps (.literal text' :: qs)) :
    Merges (.literal text :: ps) (.literal (text ++ text') :: qs)
  | blank {ps qs : List Piece} (h : Merges ps qs) : Merges ps (.literal [] :: qs)

/-- Silent text in front of a text joins the first literal text of its decomposition. -/
theorem Decomposes.prepend {text cs : List Char} {d : Decomposition} (h : Decomposes known cs d)
    (silent : Silent known text cs) : Decomposes known (text ++ cs) (d.prepend text) := by
  cases h with
  | @last text' silent' =>
    refine .last (Silent.append ?_ silent')
    rwa [List.append_nil]
  | @stretch text' cs rest i d silent' spanned more =>
    rw [← List.append_assoc]
    exact .stretch (Silent.append silent silent') spanned more

theorem Merges.prepend {text : List Char} {ps : List Piece} {d : Decomposition}
    (h : Merges ps d.pieces) : Merges (.literal text :: ps) (d.prepend text).pieces := by
  obtain ⟨_ | ⟨s, stretches⟩, last⟩ := d
  · exact .join h
  · exact .join h

theorem silent_nil (rest : List Char) : Silent known [] rest := by
  intro front back heq hback
  exact absurd (List.append_eq_nil_iff.mp heq.symm).2 hback

/-- An invocation takes up at least its marker, so what follows is shorter and can be taken apart by
induction. -/
theorem Spanned.length_lt {cs rest : List Char} {i : Invocation} (h : Spanned known cs i rest) :
    rest.length < cs.length := by
  obtain ⟨start, list⟩ := h
  rw [start.split, list.eq_append]
  simp only [marker, List.length_append, List.length_cons]
  omega

/-- **The scanner finds a decomposition**: its pieces are the decomposition's with the literal texts
cut up. -/
theorem exists_decomposes (known : String → Bool) (cs : List Char) :
    ∃ d, Decomposes known cs d ∧ Merges (pieces known cs) d.pieces := by
  -- On the length, since the scanner may go on behind a whole invocation.
  induction hn : cs.length using Nat.strongRecOn generalizing cs with
  | ind n ih =>
    by_cases hcs : cs = []
    · subst hcs
      refine ⟨⟨[], []⟩, .last (silent_nil []), ?_⟩
      rw [pieces]
      exact .blank .nil
    · rcases pieces_step known hcs with
        ⟨text, rest, rfl, htext, silent, hpieces⟩ | ⟨i, rest, spanned, hpieces⟩
      · have hlt : rest.length < n := by
          have := List.length_pos_iff.mpr htext
          rw [← hn, List.length_append]
          omega
        obtain ⟨d, hd, hm⟩ := ih _ hlt rest rfl
        rw [hpieces]
        exact ⟨d.prepend text, hd.prepend silent, hm.prepend⟩
      · obtain ⟨d, hd, hm⟩ := ih _ (hn ▸ spanned.length_lt) rest rfl
        rw [hpieces]
        exact ⟨_, .stretch (silent_nil cs) spanned hd, .blank (.cons hm)⟩

end FrameSource.Template
