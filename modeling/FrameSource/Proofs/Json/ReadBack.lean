import FrameSource.Json.Tree
import FrameSource.Proofs.Alignment
import FrameSource.Proofs.Json.Lexing

/-!
# Written values are read back

The text of a value, in compact form or in lines, is the same tokens with other blanks between them
(`Value.spells_compact`, `Value.spells_indented`), and the tokens are put together to one tree
(`Value.run_tokens`): the tree has the value's items and members in their order, its strings and its
numbers as they are written, and `null` where a number has no numeral.

**What is written reads back as that tree** (`parse?_compact`, `parse?_indented`). Trees are looked
into by the names of members and the numbers of items (`Tree.member?`, `Tree.item?`).
-/

namespace FrameSource.Json

/-! ## Tokens among blanks -/

/-- The tokens of a text. -/
inductive Lexes : List Char → List Token → Prop where
  | nil : Lexes [] []
  | blank {c : Char} {cs : List Char} {ts : List Token} (hc : isSpace c = true)
      (h : Lexes cs ts) : Lexes (c :: cs) ts
  | token {c : Char} {piece rest : List Char} {t : Token} {ts : List Token}
      (hread : lexToken? (c :: (piece ++ rest)) = some (t, rest)) (h : Lexes rest ts) :
      Lexes (c :: (piece ++ rest)) (t :: ts)

/-- No token begins with a blank. -/
theorem isSpace_of_lexToken? {c : Char} {cs : List Char} {r : Token × List Char}
    (h : lexToken? (c :: cs) = some r) : isSpace c = false := by
  cases hspace : isSpace c with
  | false => rfl
  | true =>
    simp only [isSpace, Bool.or_eq_true, decide_eq_true_eq, or_assoc] at hspace
    obtain rfl | rfl | rfl | rfl := hspace <;> cases h

/-- The lexer finds the tokens with any fuel that is not less than the text is long. Each token and
each blank takes at least one character. -/
theorem Lexes.lexAll?_eq {cs : List Char} {ts : List Token} (h : Lexes cs ts) {fuel : ℕ}
    (hfuel : cs.length ≤ fuel) : lexAll? fuel cs = some ts := by
  induction h generalizing fuel with
  | nil => cases fuel <;> rfl
  | blank hc _ ih =>
    obtain ⟨fuel, rfl⟩ := Nat.exists_eq_succ_of_ne_zero (Nat.ne_zero_of_lt hfuel)
    rw [lexAll?, if_pos hc]
    exact ih (Nat.le_of_succ_le_succ hfuel)
  | @token c piece rest t ts hread _ ih =>
    obtain ⟨fuel, rfl⟩ := Nat.exists_eq_succ_of_ne_zero (Nat.ne_zero_of_lt hfuel)
    have hrest : rest.length ≤ fuel := by
      rw [List.length_cons, List.length_append] at hfuel
      omega
    rw [lexAll?, if_neg (by rw [isSpace_of_lexToken? hread]; exact Bool.false_ne_true), hread]
    simp only [Option.bind_eq_bind, Option.bind_some, ih hrest]
    rfl

theorem Lexes.blanks {blanks cs : List Char} {ts : List Token}
    (hblanks : ∀ c ∈ blanks, isSpace c = true) (h : Lexes cs ts) : Lexes (blanks ++ cs) ts := by
  induction blanks with
  | nil => exact h
  | cons c blanks ih =>
    obtain ⟨hc, hblanks⟩ := List.forall_mem_cons.mp hblanks
    exact .blank hc (ih hblanks)

/-- A text is read as tokens, whatever detached text follows. -/
def Spells (cs : List Char) (ts : List Token) : Prop :=
  ∀ rest us, Detached rest → Lexes rest us → Lexes (cs ++ rest) (ts ++ us)

/-- A character is a token by itself. -/
structure Punctuation (c : Char) (t : Token) : Prop where
  read : ∀ rest, lexToken? (c :: rest) = some (t, rest)
  detached : ∀ rest, Detached (c :: rest)

theorem Punctuation.lexes {c : Char} {t : Token} (h : Punctuation c t) {rest : List Char}
    {ts : List Token} (hrest : Lexes rest ts) : Lexes (c :: rest) (t :: ts) := by
  have htoken : Lexes (c :: ([] ++ rest)) (t :: ts) := .token (h.read rest) hrest
  exact htoken

/-- A character that cannot go on with a numeral ends one, whatever follows it. -/
theorem detached_cons {c : Char} (hc : Text.isDigit c = false ∧ c ≠ '.' ∧ c ≠ 'e' ∧ c ≠ 'E')
    (rest : List Char) : Detached (c :: rest) := by
  rintro _ ⟨⟩
  exact hc

theorem punctuation_comma : Punctuation ',' .comma := ⟨fun _ => rfl, detached_cons (by decide)⟩

theorem punctuation_colon : Punctuation ':' .colon := ⟨fun _ => rfl, detached_cons (by decide)⟩

theorem spells_nil : Spells [] [] := fun _ _ _ h => h

/-- A text that is read as one token spells it. -/
theorem spells_token {piece : List Char} {t : Token} (hne : piece ≠ [])
    (hread : ∀ rest, Detached rest → lexToken? (piece ++ rest) = some (t, rest)) :
    Spells piece [t] := by
  intro rest us hrest hus
  obtain ⟨c, cs, rfl⟩ := List.exists_cons_of_ne_nil hne
  exact .token (hread rest hrest) hus

theorem Spells.blanks {blanks cs : List Char} {ts : List Token}
    (hblanks : ∀ c ∈ blanks, isSpace c = true) (h : Spells cs ts) : Spells (blanks ++ cs) ts := by
  intro rest us hrest hus
  rw [List.append_assoc]
  exact (h rest us hrest hus).blanks hblanks

/-- Texts with commas and blanks between them. -/
def joinTokens : List (List Token) → List Token
  | [] => []
  | [ts] => ts
  | ts :: rest => ts ++ .comma :: joinTokens rest

/-- Pieces between commas spell their tokens between commas, with or without blanks behind the
commas. The compact and the indented form differ in these blanks alone. -/
theorem spells_joinWith {blanks : List Char} (hblanks : ∀ c ∈ blanks, isSpace c = true)
    {pieces : List (List Char)} {tokens : List (List Token)}
    (h : List.Forall₂ Spells pieces tokens) :
    Spells (joinWith (',' :: blanks) pieces) (joinTokens tokens) := by
  -- Along the pieces; each but the last is followed by a comma, which detaches what it ends.
  induction h with
  | nil => exact spells_nil
  | @cons piece ts pieces tokens hpiece hrest ih =>
    cases hrest with
    | nil => exact hpiece
    | cons hnext htail =>
      intro rest us hdetached hus
      have hmore := (ih rest us hdetached hus).blanks hblanks
      have hall := hpiece _ _ (punctuation_comma.detached _) (punctuation_comma.lexes hmore)
      simp only [joinWith, joinTokens, List.append_assoc, List.cons_append] at hall ⊢
      exact hall

/-- A text in brackets. -/
theorem Spells.bracketed {o c : Char} {opening closing : Token} (ho : Punctuation o opening)
    (hc : Punctuation c closing) {cs : List Char} {ts : List Token} (h : Spells cs ts) :
    Spells ([o] ++ cs ++ [c]) (opening :: (ts ++ [closing])) := by
  intro rest us _ hus
  have hinside := h _ _ (hc.detached rest) (hc.lexes hus)
  have hall := ho.lexes hinside
  simp only [List.append_assoc, List.cons_append, List.nil_append] at hall ⊢
  exact hall

/-- A member: its name, a colon and, after blanks, its value. -/
theorem Spells.member {blanks cs : List Char} {ts : List Token}
    (hblanks : ∀ c ∈ blanks, isSpace c = true) (h : Spells cs ts) (name : String) :
    Spells (writeString name ++ (':' :: blanks) ++ cs)
      (.string (unitsOf name) :: .colon :: ts) := by
  intro rest us hrest hus
  have hvalue := (h rest us hrest hus).blanks hblanks
  have hcolon := punctuation_colon.lexes hvalue
  have hname := spells_token (List.cons_ne_nil _ _) (fun rest _ => lexToken?_string name rest) _ _
    (punctuation_colon.detached _) hcolon
  simp only [List.append_assoc, List.cons_append] at hname ⊢
  exact hname

/-! ## Values as tokens -/

mutual

/-- The tokens of a value. -/
def Value.tokens : Value → List Token
  | .null => [.null]
  | .bool b => [.bool b]
  | .number n => [n.token]
  | .string s => [.string (unitsOf s)]
  | .array items => .openBracket :: (joinTokens (itemTokens items) ++ [.closeBracket])
  | .object members => .openBrace :: (joinTokens (memberTokens members) ++ [.closeBrace])

/-- The tokens of items. -/
def itemTokens : List Value → List (List Token)
  | [] => []
  | v :: vs => v.tokens :: itemTokens vs

/-- The tokens of members. -/
def memberTokens : List (String × Value) → List (List Token)
  | [] => []
  | (name, v) :: ms => (.string (unitsOf name) :: .colon :: v.tokens) :: memberTokens ms

end

theorem punctuation_bracket :
    Punctuation '[' .openBracket ∧ Punctuation ']' .closeBracket :=
  ⟨⟨fun _ => rfl, detached_cons (by decide)⟩, ⟨fun _ => rfl, detached_cons (by decide)⟩⟩

theorem punctuation_brace :
    Punctuation '\x7b' .openBrace ∧ Punctuation '\x7d' .closeBrace :=
  ⟨⟨fun _ => rfl, detached_cons (by decide)⟩, ⟨fun _ => rfl, detached_cons (by decide)⟩⟩

theorem spells_number (n : Number) : Spells n.write [n.token] := by
  refine spells_token ?_ fun rest hrest => lexToken?_number n hrest
  intro hnil
  have hread : lexToken? (n.write ++ []) = _ := lexToken?_number n nofun
  rw [hnil] at hread
  cases hread

theorem no_blanks : ∀ c ∈ ([] : List Char), isSpace c = true := nofun

mutual

/-- **A value in compact form** spells its tokens. -/
theorem Value.spells_compact : ∀ v : Value, Spells v.compactChars v.tokens
  | .null => spells_token (by decide) fun _ _ => rfl
  | .bool true => spells_token (by decide) fun _ _ => rfl
  | .bool false => spells_token (by decide) fun _ _ => rfl
  | .number n => spells_number n
  | .string s => spells_token (List.cons_ne_nil _ _) fun rest _ => lexToken?_string s rest
  | .array items =>
    (spells_joinWith no_blanks (spells_compactItems items)).bracketed punctuation_bracket.1
      punctuation_bracket.2
  | .object members =>
    (spells_joinWith no_blanks (spells_compactMembers members)).bracketed punctuation_brace.1
      punctuation_brace.2

/-- Items of an array, one by one. This and the next one are mutual with `spells_compact`, as values
nest. -/
theorem spells_compactItems :
    ∀ items : List Value, List.Forall₂ Spells (compactItems items) (itemTokens items)
  | [] => .nil
  | v :: vs => .cons v.spells_compact (spells_compactItems vs)

theorem spells_compactMembers :
    ∀ members : List (String × Value),
      List.Forall₂ Spells (compactMembers members) (memberTokens members)
  | [] => .nil
  | (name, v) :: ms => .cons (v.spells_compact.member no_blanks name) (spells_compactMembers ms)

end

theorem isSpace_newLine (depth : ℕ) : ∀ c ∈ newLine depth, isSpace c = true := by
  refine List.forall_mem_cons.mpr ⟨rfl, ?_⟩
  intro c hc
  rw [List.eq_of_mem_replicate hc]
  rfl

/-- Lines with a new line before and after them. -/
theorem spells_block (depth : ℕ) {lines : List (List Char)} {tokens : List (List Token)}
    (h : List.Forall₂ Spells lines tokens) : Spells (block depth lines) (joinTokens tokens) := by
  unfold block
  split
  · next hempty =>
    obtain rfl := List.isEmpty_iff.mp hempty
    cases h
    exact spells_nil
  · have hlines := (spells_joinWith (isSpace_newLine (depth + 1)) h).blanks
      (isSpace_newLine (depth + 1))
    intro rest us _ hus
    rw [List.append_assoc (newLine (depth + 1) ++ _)]
    exact hlines _ _ (detached_cons (by decide) _) (hus.blanks (isSpace_newLine depth))

mutual

/-- **A value in lines** spells its tokens. -/
theorem Value.spells_indented : ∀ (v : Value) (depth : ℕ), Spells (v.indentedChars depth) v.tokens
  | .null, _ => Value.spells_compact .null
  | .bool b, _ => Value.spells_compact (.bool b)
  | .number n, _ => Value.spells_compact (.number n)
  | .string s, _ => Value.spells_compact (.string s)
  | .array items, depth =>
    (spells_block depth (spells_indentedItems items (depth + 1))).bracketed punctuation_bracket.1
      punctuation_bracket.2
  | .object members, depth =>
    (spells_block depth (spells_indentedMembers members (depth + 1))).bracketed punctuation_brace.1
      punctuation_brace.2

/-- Indentation puts a new line and blanks in front of each item, and these are no tokens. -/
theorem spells_indentedItems :
    ∀ (items : List Value) (depth : ℕ),
      List.Forall₂ Spells (indentedItems depth items) (itemTokens items)
  | [], _ => .nil
  | v :: vs, depth => .cons (v.spells_indented depth) (spells_indentedItems vs depth)

theorem spells_indentedMembers :
    ∀ (members : List (String × Value)) (depth : ℕ),
      List.Forall₂ Spells (indentedMembers depth members) (memberTokens members)
  | [], _ => .nil
  | (name, v) :: ms, depth =>
    .cons ((v.spells_indented depth).member (fun _ hc => List.eq_of_mem_singleton hc ▸ rfl) name)
      (spells_indentedMembers ms depth)

end

/-! ## Tokens as a tree -/

/-- The tree of a number. -/
def Number.tree (n : Number) : Tree :=
  match n.numeral? with
  | some numeral => .number numeral
  | none => .null

mutual

/-- The tree of a value. -/
def Value.tree : Value → Tree
  | .null => .null
  | .bool b => .bool b
  | .number n => n.tree
  | .string s => .string (unitsOf s)
  | .array items => .array (itemTrees items)
  | .object members => .object (memberTrees members)

/-- The trees of items. -/
def itemTrees : List Value → List Tree
  | [] => []
  | v :: vs => v.tree :: itemTrees vs

/-- The trees of members. -/
def memberTrees : List (String × Value) → List (List StringUnit × Tree)
  | [] => []
  | (name, v) :: ms => (unitsOf name, v.tree) :: memberTrees ms

end

open ParseState

/-- Tokens that are joined begin with the first ones. -/
theorem exists_joinTokens (ts : List Token) (rest : List (List Token)) :
    ∃ more, joinTokens (ts :: rest) = ts ++ more := by
  cases rest with
  | nil => exact ⟨[], (List.append_nil ts).symm⟩
  | cons next rest => exact ⟨.comma :: joinTokens (next :: rest), rfl⟩

/-- The first item of an array is read like any other one. -/
theorem run_firstItem (v : Value) (stack : List OpenContainer) (ts : List Token) :
    run (.firstItem stack) (v.tokens ++ ts) =
      run (.value (.array [] :: stack)) (v.tokens ++ ts) := by
  cases v with
  | number n =>
    show run _ (n.token :: ts) = run _ (n.token :: ts)
    unfold Number.token
    cases n.numeral? <;> rfl
  | _ => rfl

mutual

/-- **The tokens of a value** are put together to its tree. -/
theorem Value.run_tokens : ∀ (v : Value) (stack : List OpenContainer) (ts : List Token),
    run (.value stack) (v.tokens ++ ts) = run (.complete v.tree stack) ts
  | .null, _, _ => rfl
  | .bool _, _, _ => rfl
  | .number n, stack, ts => by
    show run _ (n.token :: ts) = run (.complete n.tree stack) ts
    unfold Number.token Number.tree
    cases n.numeral? <;> rfl
  | .string _, _, _ => rfl
  | .array items, stack, ts => by
    -- A bracket opens a place for the first item, where the array may also end at once.
    have hitems := run_itemTokens items [] stack ts
    cases items with
    | nil => rfl
    | cons v vs =>
      obtain ⟨more, hmore⟩ := exists_joinTokens v.tokens (itemTokens vs)
      replace hitems := hitems (List.cons_ne_nil v vs)
      rw [itemTokens, hmore, List.append_assoc, ← run_firstItem, ← List.append_assoc,
        ← hmore] at hitems
      rw [Value.tokens, itemTokens, List.cons_append, List.append_assoc]
      exact hitems
  | .object members, stack, ts => by
    have hmembers := run_memberTokens members [] stack ts
    cases members with
    | nil => rfl
    | cons m ms =>
      obtain ⟨name, v⟩ := m
      obtain ⟨more, hmore⟩ :=
        exists_joinTokens (.string (unitsOf name) :: .colon :: v.tokens) (memberTokens ms)
      replace hmembers := hmembers (List.cons_ne_nil _ ms)
      rw [Value.tokens, List.cons_append, List.append_assoc]
      rw [memberTokens, hmore] at hmembers ⊢
      exact hmembers

/-- Items are added to the array that waits for them. -/
theorem run_itemTokens : ∀ (items : List Value) (done : List Tree) (stack : List OpenContainer)
    (ts : List Token), items ≠ [] →
    run (.value (.array done :: stack)) (joinTokens (itemTokens items) ++ .closeBracket :: ts) =
      run (.complete (.array (done.reverse ++ itemTrees items)) stack) ts
  | [], _, _, _, hne => absurd rfl hne
  | [v], done, stack, ts, _ => by
    show run _ (v.tokens ++ _) = run (.complete (.array (done.reverse ++ [v.tree])) stack) ts
    rw [v.run_tokens, ← List.reverse_cons]
    rfl
  | v :: w :: ws, done, stack, ts, _ => by
    have hrest := run_itemTokens (w :: ws) (v.tree :: done) stack ts (List.cons_ne_nil w ws)
    rw [List.reverse_cons, List.append_assoc] at hrest
    show run _ ((v.tokens ++ .comma :: joinTokens (itemTokens (w :: ws))) ++ _) = _
    rw [List.append_assoc, v.run_tokens]
    exact hrest

/-- Members are added to the object that waits for them. -/
theorem run_memberTokens : ∀ (members : List (String × Value))
    (done : List (List StringUnit × Tree)) (stack : List OpenContainer) (ts : List Token),
    members ≠ [] →
    run (.key done stack) (joinTokens (memberTokens members) ++ .closeBrace :: ts) =
      run (.complete (.object (done.reverse ++ memberTrees members)) stack) ts
  | [], _, _, _, hne => absurd rfl hne
  | [(name, v)], done, stack, ts, _ => by
    show run (.value (.object done (unitsOf name) :: stack)) (v.tokens ++ _) =
      run (.complete (.object (done.reverse ++ [(unitsOf name, v.tree)])) stack) ts
    rw [v.run_tokens, ← List.reverse_cons]
    rfl
  | (name, v) :: m :: ms, done, stack, ts, _ => by
    have hrest := run_memberTokens (m :: ms) ((unitsOf name, v.tree) :: done) stack ts
      (List.cons_ne_nil m ms)
    rw [List.reverse_cons, List.append_assoc] at hrest
    show run (.value (.object done (unitsOf name) :: stack))
      ((v.tokens ++ .comma :: joinTokens (memberTokens (m :: ms))) ++ _) = _
    rw [List.append_assoc, v.run_tokens]
    exact hrest

end

/-- The parser gives the tree of a value for its tokens, with nothing left over. -/
theorem ofTokens?_tokens (v : Value) : Tree.ofTokens? v.tokens = some v.tree := by
  have hrun := v.run_tokens [] []
  rw [List.append_nil] at hrun
  rw [Tree.ofTokens?, hrun]
  rfl

/-! ## Reading back -/

/-- A text that spells the tokens of a value is parsed to the tree of that value. -/
theorem parse?_of_spells {cs : List Char} {v : Value} (h : Spells cs v.tokens) :
    Tree.parse? (String.ofList cs) = some v.tree := by
  have hlexes := h [] [] nofun .nil
  rw [List.append_nil, List.append_nil] at hlexes
  rw [Tree.parse?, String.toList_ofList, tokens?, hlexes.lexAll?_eq (le_refl _)]
  exact ofTokens?_tokens v

/-- **The compact text of a value reads back** as the tree of the value. -/
theorem parse?_compact (v : Value) : Tree.parse? v.compact = some v.tree :=
  parse?_of_spells v.spells_compact

/-- **The text of a value in lines reads back** as the same tree. -/
theorem parse?_indented (v : Value) : Tree.parse? v.indented = some v.tree :=
  parse?_of_spells (v.spells_indented 0)

/-! ## Looking into trees -/

/-- The first member of a name. -/
def Tree.member? (name : String) : Tree → Option Tree
  | .object members => (members.find? fun m => text? m.1 = some name).map (·.2)
  | _ => none

/-- The item of a number. -/
def Tree.item? (i : ℕ) : Tree → Option Tree
  | .array items => items[i]?
  | _ => none

theorem itemTrees_eq_map (items : List Value) : itemTrees items = items.map Value.tree := by
  induction items with
  | nil => rfl
  | cons v vs ih => rw [itemTrees, ih, List.map_cons]

theorem item?_tree (items : List Value) (i : ℕ) :
    (Value.array items).tree.item? i = items[i]?.map Value.tree := by
  rw [Value.tree, Tree.item?, itemTrees_eq_map, List.getElem?_map]

/-- The first member of a name is the one that is found, as in the members that were written. -/
theorem member?_tree (members : List (String × Value)) (name : String) :
    (Value.object members).tree.member? name =
      (members.find? fun m => m.1 = name).map fun m => m.2.tree := by
  rw [Value.tree, Tree.member?]
  induction members with
  | nil => rfl
  | cons m ms ih =>
    obtain ⟨key, v⟩ := m
    rw [memberTrees, List.find?_cons, List.find?_cons, text?_unitsOf]
    by_cases h : key = name
    · simp [h]
    · simpa [h] using ih

end FrameSource.Json
