import FrameSource.Proofs.Query.Decomposition
import FrameSource.Query.Vocabulary
import Mathlib.Data.List.Forall2

/-!
# What a template expands to

Expansion, told by the decomposition of the template and by what each of its invocations gives.
`Vocabulary.Gives` is the answer of one invocation: the complaint about an argument list without an
end, or what the expander under its name makes of its arguments.

Which expanders are called, and in which order, is not part of what `Vocabulary.expand` returns. So
`evaluateAllThrough` is the same evaluation with expanders that act on a state; where they answer as
the vocabulary's do, it returns what `evaluateAll` returns (`evaluateAllThrough_fst`), and the state
tells who was called. `Vocabulary.calls` takes a list of calls for the state.

**An expansion is the decomposition with every span replaced by what its invocation gives; the first
invocation that fails decides the result, and no expander is called after it** (`expand_splices`).
-/

namespace FrameSource.Vocabulary

open Template

/-! ## What one invocation gives -/

/-- The answer of the expander under a name. Only known names are asked for. -/
def answer (v : Vocabulary) (ctx : QueryContext) (name : String) (args : List String) :
    Except ExpansionError String :=
  match v.find? name with
  | some expander => expander ctx args
  | none => .ok ""

/-- What an invocation gives: an argument list without an end is an error, any other is handed to
the expander under the name. -/
inductive Gives (v : Vocabulary) (ctx : QueryContext) (i : Invocation) :
    Except ExpansionError String → Prop
  | unended (h : i.args = none) : Gives v ctx i (.error (.unterminatedArguments i.name))
  | called {args : List String} {expander : Expander} (hargs : i.args = some args)
      (hfind : v.find? i.name = some expander) : Gives v ctx i (expander ctx args)

/-- Every invocation gives its text. -/
def AllGive (v : Vocabulary) (ctx : QueryContext) : List Invocation → List String → Prop :=
  List.Forall₂ fun i text => v.Gives ctx i (.ok text)

/-! ## Expanders that act -/

/-- A call of an expander. -/
structure Call where
  name : String
  args : List String
deriving DecidableEq, Repr

/-- The call that an invocation makes; none if its argument list has no end. -/
def callOf? (i : Invocation) : Option Call :=
  i.args.map (⟨i.name, ·⟩)

section Acting

variable {σ : Type}

/-- `evaluate` with expanders that act on a state. -/
def evaluateThrough (call : String → List String → σ → Except ExpansionError String × σ) :
    Piece → σ → Except ExpansionError (List Char) × σ
  | .literal text, s => (.ok text, s)
  | .unterminated name, s => (.error (.unterminatedArguments name), s)
  | .invocation name args, s => ((call name args s).1.map String.toList, (call name args s).2)

/-- `evaluateAll` with expanders that act on a state. -/
def evaluateAllThrough (call : String → List String → σ → Except ExpansionError String × σ) :
    List Piece → σ → Except ExpansionError (List Char) × σ
  | [], s => (.ok [], s)
  | p :: ps, s =>
    match evaluateThrough call p s with
    | (.error e, s) => (.error e, s)
    | (.ok text, s) => ((evaluateAllThrough call ps s).1.map (text ++ ·),
        (evaluateAllThrough call ps s).2)

variable {call : String → List String → σ → Except ExpansionError String × σ}

theorem evaluateThrough_literal (text : List Char) (s : σ) :
    evaluateThrough call (.literal text) s = (.ok text, s) := rfl

/-- **Acting does not change the result**: where the expanders answer as the vocabulary's do, the
evaluation returns what it returns without a state. -/
theorem evaluateAllThrough_fst {v : Vocabulary} {ctx : QueryContext}
    (h : ∀ name args s, (call name args s).1 = v.answer ctx name args) (ps : List Piece) (s : σ) :
    (evaluateAllThrough call ps s).1 = v.evaluateAll ctx ps := by
  induction ps generalizing s with
  | nil => rfl
  | cons p ps ih =>
    have hp : (evaluateThrough call p s).1 = v.evaluate ctx p := by
      cases p with
      | literal text => rfl
      | unterminated name => rfl
      | invocation name args =>
        simp only [evaluateThrough, h, answer, evaluate]
        cases v.find? name <;> rfl
    simp only [evaluateAllThrough, evaluateAll, ← hp]
    cases hr : evaluateThrough call p s with
    | mk r s' =>
      cases r with
      | error e => rfl
      | ok text =>
        simp only [ih]
        cases v.evaluateAll ctx ps <;> rfl

/-- Literal texts may be put together before they are evaluated. -/
theorem evaluateAllThrough_merges
    (call : String → List String → σ → Except ExpansionError String × σ) {ps qs : List Piece}
    (h : Merges ps qs) (s : σ) :
    evaluateAllThrough call ps s = evaluateAllThrough call qs s := by
  induction h generalizing s with
  | nil => rfl
  | cons _ ih => simp only [evaluateAllThrough, ih]
  | @join text text' ps qs _ ih =>
    simp only [evaluateAllThrough, evaluateThrough, ih]
    cases (evaluateAllThrough call qs s).1 <;> simp [Except.map]
  | @blank ps qs _ ih =>
    simp only [evaluateAllThrough, evaluateThrough, ih]
    cases hr : evaluateAllThrough call qs s with
    | mk r s' => cases r <;> rfl

end Acting

/-- The vocabulary's expanders, each of which writes its call down. -/
def recorded (v : Vocabulary) (ctx : QueryContext) (name : String) (args : List String)
    (log : List Call) : Except ExpansionError String × List Call :=
  (v.answer ctx name args, log ++ [⟨name, args⟩])

/-- The calls of expanders that an expansion makes, in order. -/
def calls (v : Vocabulary) (template : String) (ctx : QueryContext) : List Call :=
  (evaluateAllThrough (v.recorded ctx) (pieces v.contains template.toList) []).2

variable {v : Vocabulary} {ctx : QueryContext}

/-- `expand` returns what the evaluation that writes its calls down returns. -/
theorem expand_eq_recorded (v : Vocabulary) (template : String) (ctx : QueryContext) :
    v.expand template ctx =
      (evaluateAllThrough (v.recorded ctx) (pieces v.contains template.toList) []).1.map
        String.ofList := by
  rw [expand, evaluateAllThrough_fst fun name args log => show _ = v.answer ctx name args from rfl]

/-! ## The run over a decomposition -/

/-- An invocation that gives something makes its call, and evaluates to what it gives. -/
theorem evaluateThrough_piece {i : Invocation} {r : Except ExpansionError String}
    (h : v.Gives ctx i r) (log : List Call) :
    evaluateThrough (v.recorded ctx) i.piece log =
      (r.map String.toList, log ++ (callOf? i).toList) := by
  cases h with
  | unended hargs =>
    simp only [Invocation.piece, callOf?, hargs, evaluateThrough, Option.map_none,
      Option.toList_none, List.append_nil, Except.map]
  | called hargs hfind =>
    simp only [Invocation.piece, callOf?, hargs, evaluateThrough, recorded, answer, hfind,
      Option.map_some, Option.toList_some]

/-- Where every invocation gives its text, the run splices the texts in and makes every call. -/
theorem run_of_allGive (last : List Char) {stretches : List (List Char × Invocation)}
    {texts : List String} (h : AllGive v ctx (stretches.map Prod.snd) texts) (log : List Call) :
    evaluateAllThrough (v.recorded ctx) (Decomposition.pieces ⟨stretches, last⟩) log =
      (.ok (Decomposition.splice ⟨stretches, last⟩ texts),
        log ++ (stretches.map Prod.snd).filterMap callOf?) := by
  induction stretches generalizing texts log with
  | nil =>
    cases h
    simp [Decomposition.pieces, Decomposition.splice, evaluateAllThrough, evaluateThrough,
      Except.map]
  | cons s stretches ih =>
    cases h with
    | @cons _ text _ texts hs hrest =>
      have hrun := ih hrest (log ++ (callOf? s.2).toList)
      simp only [Decomposition.pieces_cons, evaluateAllThrough, evaluateThrough_literal,
        evaluateThrough_piece hs, hrun, Except.map, Decomposition.splice_cons]
      cases hc : callOf? s.2 <;> simp [hc]

/-- The first invocation that fails ends the run: its error is the result, its call the last one. -/
theorem run_of_first_error (last : List Char) {stretches : List (List Char × Invocation)}
    {before after : List Invocation} {i : Invocation} {texts : List String} {e : ExpansionError}
    (hsplit : stretches.map Prod.snd = before ++ i :: after) (h : AllGive v ctx before texts)
    (hi : v.Gives ctx i (.error e)) (log : List Call) :
    evaluateAllThrough (v.recorded ctx) (Decomposition.pieces ⟨stretches, last⟩) log =
      (.error e, log ++ (before ++ [i]).filterMap callOf?) := by
  induction before generalizing stretches texts log with
  | nil =>
    obtain ⟨s, stretches, rfl, rfl, _⟩ := List.map_eq_cons_iff.mp hsplit
    simp only [Decomposition.pieces_cons, evaluateAllThrough, evaluateThrough_literal,
      evaluateThrough_piece hi, Except.map]
    cases hc : callOf? s.2 <;> simp [hc]
  | cons j before ih =>
    obtain ⟨s, stretches, rfl, rfl, hrest⟩ := List.map_eq_cons_iff.mp hsplit
    cases h with
    | cons hs hbefore =>
      have hrun := ih hrest hbefore (log ++ (callOf? s.2).toList)
      simp only [Decomposition.pieces_cons, evaluateAllThrough, evaluateThrough_literal,
        evaluateThrough_piece hs, hrun, Except.map]
      cases hc : callOf? s.2 <;> simp [hc]

/-- Either every invocation gives its text, or there is a first one that fails. -/
theorem allGive_or_first_error {is : List Invocation} (h : ∀ i ∈ is, ∃ r, v.Gives ctx i r) :
    (∃ texts, AllGive v ctx is texts) ∨
      ∃ before i after texts e, is = before ++ i :: after ∧ AllGive v ctx before texts ∧
        v.Gives ctx i (.error e) := by
  induction is with
  | nil => exact .inl ⟨[], .nil⟩
  | cons i is ih =>
    obtain ⟨r, hr⟩ := h i List.mem_cons_self
    cases r with
    | error e => exact .inr ⟨[], i, is, [], e, rfl, .nil, hr⟩
    | ok text =>
      rcases ih fun j hj => h j (List.mem_cons_of_mem i hj) with
        ⟨texts, hall⟩ | ⟨before, j, after, texts, e, rfl, hbefore, hj⟩
      · exact .inl ⟨text :: texts, .cons hr hall⟩
      · exact .inr ⟨i :: before, j, after, text :: texts, e, rfl, .cons hr hbefore, hj⟩

/-- An invocation of a known name gives something. -/
theorem Gives.exists {i : Invocation} (h : v.contains i.name = true) : ∃ r, v.Gives ctx i r := by
  obtain ⟨expander, hfind⟩ := Option.isSome_iff_exists.mp h
  cases hargs : i.args with
  | none => exact ⟨_, .unended hargs⟩
  | some args => exact ⟨_, .called hargs hfind⟩

/-- Every invocation of a decomposition gives something: its name is known, so there is an expander. -/
theorem exists_gives {cs : List Char} {d : Decomposition} (h : Decomposes v.contains cs d) :
    ∀ i ∈ d.invocations, ∃ r, v.Gives ctx i r :=
  fun i hi => Gives.exists (h.isKnown i hi)

/-- **An expansion is the decomposition of the template with every span replaced.** There is exactly
one decomposition. If every invocation gives its text, the texts take the places of the spans and
each invocation makes its call. If one fails, the first of them decides the result, and its call is
the last one. There is no third case. -/
theorem expand_splices (v : Vocabulary) (ctx : QueryContext) (template : String) :
    ∃ d : Decomposition, Decomposes v.contains template.toList d ∧ d.text = template.toList ∧
      (∀ d', Decomposes v.contains template.toList d' → d' = d) ∧
      (∀ texts, AllGive v ctx d.invocations texts →
        v.expand template ctx = .ok (String.ofList (d.splice texts)) ∧
        v.calls template ctx = d.invocations.filterMap callOf?) ∧
      (∀ before i after texts e, d.invocations = before ++ i :: after →
        AllGive v ctx before texts → v.Gives ctx i (.error e) →
        v.expand template ctx = .error e ∧
        v.calls template ctx = (before ++ [i]).filterMap callOf?) ∧
      ((∃ texts, AllGive v ctx d.invocations texts) ∨
        ∃ before i after texts e, d.invocations = before ++ i :: after ∧
          AllGive v ctx before texts ∧ v.Gives ctx i (.error e)) := by
  obtain ⟨d, hd, hmerges⟩ := exists_decomposes v.contains template.toList
  have hrun := evaluateAllThrough_merges (v.recorded ctx) hmerges []
  refine ⟨d, hd, hd.text_eq, fun d' hd' => hd'.unique hd, ?_, ?_,
    allGive_or_first_error (exists_gives hd)⟩
  · intro texts hall
    rw [expand_eq_recorded, calls, hrun, run_of_allGive d.last hall]
    exact ⟨rfl, List.nil_append _⟩
  · intro before i after texts e hsplit hbefore hi
    rw [expand_eq_recorded, calls, hrun, run_of_first_error d.last hsplit hbefore hi]
    exact ⟨rfl, List.nil_append _⟩

end FrameSource.Vocabulary
