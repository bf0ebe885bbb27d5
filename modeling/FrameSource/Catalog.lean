/-!
# Catalogs

Named entries, kept in ascending order of their names. A catalog is built by adding entries; a name
that is already taken is refused, so an entry never replaces another.
-/

namespace FrameSource

/-- Entries under distinct names, in ascending order of the names. -/
structure Catalog (α : Type) where
  entries : List (String × α)

namespace Catalog

variable {α : Type}

/-- The catalog without entries. -/
def empty : Catalog α := ⟨[]⟩

/-- The entry under a name. -/
def find? (c : Catalog α) (name : String) : Option α :=
  c.entries.lookup name

/-- Whether a name is taken. -/
def contains (c : Catalog α) (name : String) : Bool :=
  (c.find? name).isSome

/-- The names in ascending order. -/
def names (c : Catalog α) : List String :=
  c.entries.map Prod.fst

/-- The entries in ascending order of their names. -/
def toList (c : Catalog α) : List α :=
  c.entries.map Prod.snd

/-- How many entries there are. -/
def size (c : Catalog α) : Nat :=
  c.entries.length

/-- An entry put where its name belongs. -/
def insertSorted (name : String) (entry : α) : List (String × α) → List (String × α)
  | [] => [(name, entry)]
  | e :: es => if name < e.1 then (name, entry) :: e :: es else e :: insertSorted name entry es

/-- A catalog with one more entry; the error is the name if it is taken. -/
def add (c : Catalog α) (name : String) (entry : α) : Except String (Catalog α) :=
  if c.contains name then .error name else .ok ⟨insertSorted name entry c.entries⟩

/-- A catalog with the entries of a batch added one after the other. -/
def addAll (c : Catalog α) : List (String × α) → Except String (Catalog α)
  | [] => .ok c
  | e :: es => do (← c.add e.1 e.2).addAll es

/-- A catalog built from batches of entries. A name that is taken is reported with the number of the
batch that brings it again. -/
def build (batches : List (List (String × α))) : Except (Nat × String) (Catalog α) :=
  go 0 empty batches
where
  go (step : Nat) (c : Catalog α) : List (List (String × α)) → Except (Nat × String) (Catalog α)
    | [] => .ok c
    | b :: bs =>
      match c.addAll b with
      | .ok c => go (step + 1) c bs
      | .error name => .error (step, name)

/-- A catalog of entries whose names are known to be distinct. -/
def ofList (es : List (String × α)) : Catalog α :=
  ⟨es.foldr (fun e rest => insertSorted e.1 e.2 rest) []⟩

/-! ## What a catalog holds -/

theorem mem_of_find? {c : Catalog α} {name : String} {entry : α} (h : c.find? name = some entry) :
    (name, entry) ∈ c.entries := by
  obtain ⟨before, after, hentries, _⟩ := List.lookup_eq_some_iff.mp h
  rw [hentries]
  exact List.mem_append_right _ List.mem_cons_self

theorem insertSorted_perm (name : String) (entry : α) (es : List (String × α)) :
    (insertSorted name entry es).Perm ((name, entry) :: es) := by
  induction es with
  | nil => exact .refl _
  | cons e es ih =>
    rw [insertSorted]
    split
    · exact .refl _
    · exact (ih.cons e).trans (.swap (name, entry) e es)

theorem lookup_cons (name : String) (e : String × α) (es : List (String × α)) :
    (e :: es).lookup name = if name = e.1 then some e.2 else es.lookup name := by
  obtain ⟨key, value⟩ := e
  by_cases h : name = key
  · rw [if_pos h, h]
    exact List.lookup_cons_self
  · rw [if_neg h, List.lookup_cons, beq_false_of_ne h]

/-- Entries that are changed in their places are found under the same names. -/
theorem lookup_map_entries {β : Type} (f : String → α → β) (es : List (String × α))
    (name : String) :
    (es.map fun e => (e.1, f e.1 e.2)).lookup name = (es.lookup name).map (f name) := by
  induction es with
  | nil => rfl
  | cons e es ih =>
    rw [List.map_cons, lookup_cons, lookup_cons, ih]
    by_cases h : name = e.1
    · rw [if_pos h, if_pos h, h]
      rfl
    · rw [if_neg h, if_neg h]

/-- An entry under a new name is found under that name, and hides no other. -/
theorem lookup_insertSorted {name : String} {es : List (String × α)} (h : es.lookup name = none)
    (entry : α) (other : String) :
    (insertSorted name entry es).lookup other =
      if other = name then some entry else es.lookup other := by
  induction es with
  | nil => exact lookup_cons other (name, entry) []
  | cons e es ih =>
    have hne : name ≠ e.1 := by
      rintro rfl
      rw [lookup_cons, if_pos rfl] at h
      cases h
    rw [lookup_cons, if_neg hne] at h
    rw [insertSorted]
    split
    · exact lookup_cons other (name, entry) (e :: es)
    · rw [lookup_cons, lookup_cons, ih h]
      by_cases hother : other = e.1
      · rw [if_pos hother, if_pos hother, if_neg (hother ▸ hne.symm)]
      · rw [if_neg hother, if_neg hother]

/-- A name that is not taken can be added. -/
theorem exists_add {c : Catalog α} {name : String} (h : c.contains name = false) (entry : α) :
    ∃ c', c.add name entry = .ok c' :=
  ⟨⟨insertSorted name entry c.entries⟩, by simp only [add, h, Bool.false_eq_true, if_false]⟩

/-- An entry that is added is found under its name, and changes nothing under other names. -/
theorem find?_of_add {c c' : Catalog α} {name : String} {entry : α} (h : c.add name entry = .ok c')
    (other : String) : c'.find? other = if other = name then some entry else c.find? other := by
  unfold add at h
  split at h
  · cases h
  · rename_i hnew
    cases h
    have hnone : c.find? name = none := Option.not_isSome_iff_eq_none.mp hnew
    exact lookup_insertSorted hnone entry other

/-- Sorting loses no entry and adds none. -/
theorem ofList_perm (es : List (String × α)) : (ofList es).entries.Perm es := by
  induction es with
  | nil => exact .refl _
  | cons e es ih => exact (insertSorted_perm e.1 e.2 _).trans (ih.cons e)

end Catalog

end FrameSource
