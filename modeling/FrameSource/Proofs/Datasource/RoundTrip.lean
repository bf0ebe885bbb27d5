import FrameSource.Proofs.Datasource.Secrecy
import FrameSource.Proofs.Json.Held
import FrameSource.Proofs.Json.ReadBack

/-!
# Settings are read back

Settings are written as an object and read from one by the names of their fields. A name that is not
there is no error: its field takes the default. So a field that was written under another name than it
is read by would be lost in silence.

**None is lost** (`parse?_toJson`): settings read back from their JSON form, in either layout, are the
same as they were, without their secrets. Every integer of 64 bits, every string and every word is
read as the value that it was written for.

The other way is not claimed: a text that is read need not be the one that is written, as names that
are not known are passed over and secrets are not written.
-/

namespace FrameSource

namespace Json

/-! ## Members and numbers -/

theorem namedMembers?_memberTrees (members : List (String × Value)) :
    namedMembers? (memberTrees members) = some (members.map fun m => (m.1, m.2.tree)) := by
  induction members with
  | nil => rfl
  | cons m ms ih =>
    obtain ⟨name, v⟩ := m
    rw [namedMembers?, memberTrees, List.mapM_cons, text?_unitsOf]
    rw [namedMembers?] at ih
    rw [ih]
    rfl

/-- The fields of a written object are found by their names. -/
theorem fields?_tree (fields : List (List String)) (members : List (String × Value)) :
    source.fields? fields (Value.object members).tree =
      fields.mapM (field? (members.map fun m => (m.1, m.2.tree))) := by
  show (namedMembers? (memberTrees members)).bind (fun named => fields.mapM (field? named)) = _
  rw [namedMembers?_memberTrees]
  rfl

/-- An integer is read back from its tree, as long as it is one that the reader keeps exactly. -/
theorem integer?_tree {n : ℤ} (h : (Number.int n).IsHeld) :
    source.integer? (Value.number (.int n)).tree = some n := by
  simp only [source, Value.tree, Number.tree, Number.numeral?, Tree.integer?, intNumeral,
    Numeral.number?_decimal h]

theorem int64?_tree (n : Int64) : source.int64? (Value.number (.int n.toInt)).tree = some n := by
  have hlow : -2 ^ 63 ≤ n.toInt := n.le_toInt
  have hhigh : n.toInt < 2 ^ 63 := n.toInt_lt
  have hheld : (Number.int n.toInt).IsHeld := ⟨hlow, by omega⟩
  rw [RecordSource.int64?, integer?_tree hheld, Option.bind_eq_bind, Option.bind_some,
    if_pos (Text.inInt64_iff.mpr ⟨hlow, hhigh⟩), Int64.ofInt_toInt]

theorem uint64?_tree (n : UInt64) : source.uint64? (Value.number (.int n.toNat)).tree = some n := by
  have hhigh : n.toNat < 2 ^ 64 := n.toNat_lt
  have hheld : (Number.int n.toNat).IsHeld := ⟨by omega, by omega⟩
  have hrange : 0 ≤ (n.toNat : ℤ) ∧ (n.toNat : ℤ) < UInt64.size :=
    ⟨Int.natCast_nonneg _, Int.ofNat_lt.mpr hhigh⟩
  rw [RecordSource.uint64?, integer?_tree hheld, Option.bind_eq_bind, Option.bind_some,
    if_pos hrange, Int.toNat_natCast, UInt64.ofNat_toNat]

theorem string?_tree (s : String) : source.string? (Value.string s).tree = some s :=
  text?_unitsOf s

/-- A word is read back by its meaning, if the meaning of every word that is written is the value it
was written for. -/
theorem meaning?_tree {α : Type} {read : String → Option α} {word : α → String}
    (h : ∀ a, read (word a) = some a) (a : α) :
    source.meaning? read (Value.string (word a)).tree = some a := by
  show (text? (unitsOf (word a))).bind read = some a
  rw [text?_unitsOf]
  exact h a

end Json

namespace Settings

open Json (source)

/-- What is written of an optional value is read as it, if its word is. -/
theorem optional?_optionalJson {α : Type} {read : Json.Tree → Option α} (word : α → String)
    (h : ∀ a, read (Json.Value.string (word a)).tree = some a) (o : Option α) :
    source.optional? read (optionalJson (o.map word)).tree = some o := by
  cases o with
  | none => rfl
  | some a =>
    show (read (Json.Value.string (word a)).tree).map some = _
    rw [h a]
    rfl

/-- Which member each field finds in the written object. The four secrets find none. -/
theorem fields?_toJson (s : Settings) :
    source.fields? fieldNames s.toJson.tree = some
      [some (Json.Value.string s.server).tree, some (Json.Value.number (.int s.port.toInt)).tree,
       some (Json.Value.string s.username).tree, none, some (Json.Value.string s.tlsMode.word).tree,
       some (optionalJson (s.tlsMethod.map TlsMethod.word)).tree, none, none, none,
       some (optionalJson s.tlsCaCertFile).tree, some (optionalJson s.tlsClientCertFile).tree,
       some (optionalJson s.tlsClientKeyFile).tree,
       some (Json.Value.number (.int s.timeout.toNat)).tree,
       some (Json.Value.number (.int s.queryTimeout.toNat)).tree,
       some (Json.Value.number (.int s.maxOpenConnections.toInt)).tree,
       some (Json.Value.number (.int s.maxIdleConnections.toInt)).tree,
       some (Json.Value.number (.int s.maxConnectionLifetime.toInt)).tree] := by
  rw [toJson, Json.fields?_tree]
  rfl

/-- Reading back from the tree is where the secrets get lost, and where nothing else does. -/
theorem read?_toJson (s : Settings) : read? source s.toJson.tree = some s.withoutSecrets := by
  have htlsMethod :=
    optional?_optionalJson TlsMethod.word (Json.meaning?_tree TlsMethod.ofWord?_word) s.tlsMethod
  have htext : ∀ o, source.optional? source.string? (optionalJson o).tree = some o := by
    intro o
    have hread := optional?_optionalJson id Json.string?_tree o
    rwa [Option.map_id] at hread
  unfold read?
  rw [s.fields?_toJson, Option.bind_eq_bind, Option.bind_some]
  -- field after field; what is secret is not written, and reads as its default
  refine Option.bind_eq_some_iff.mpr ⟨_, Json.string?_tree s.server, ?_⟩
  refine Option.bind_eq_some_iff.mpr ⟨_, Json.int64?_tree s.port, ?_⟩
  refine Option.bind_eq_some_iff.mpr ⟨_, Json.string?_tree s.username, ?_⟩
  refine Option.bind_eq_some_iff.mpr ⟨_, rfl, ?_⟩
  refine Option.bind_eq_some_iff.mpr ⟨_, Json.meaning?_tree TlsMode.ofWord?_word s.tlsMode, ?_⟩
  refine Option.bind_eq_some_iff.mpr ⟨_, htlsMethod, ?_⟩
  refine Option.bind_eq_some_iff.mpr ⟨_, rfl, ?_⟩
  refine Option.bind_eq_some_iff.mpr ⟨_, rfl, ?_⟩
  refine Option.bind_eq_some_iff.mpr ⟨_, rfl, ?_⟩
  refine Option.bind_eq_some_iff.mpr ⟨_, htext s.tlsCaCertFile, ?_⟩
  refine Option.bind_eq_some_iff.mpr ⟨_, htext s.tlsClientCertFile, ?_⟩
  refine Option.bind_eq_some_iff.mpr ⟨_, htext s.tlsClientKeyFile, ?_⟩
  refine Option.bind_eq_some_iff.mpr ⟨_, Json.uint64?_tree s.timeout, ?_⟩
  refine Option.bind_eq_some_iff.mpr ⟨_, Json.uint64?_tree s.queryTimeout, ?_⟩
  refine Option.bind_eq_some_iff.mpr ⟨_, Json.int64?_tree s.maxOpenConnections, ?_⟩
  refine Option.bind_eq_some_iff.mpr ⟨_, Json.int64?_tree s.maxIdleConnections, ?_⟩
  refine Option.bind_eq_some_iff.mpr ⟨_, Json.int64?_tree s.maxConnectionLifetime, ?_⟩
  rfl

/-- **Settings are read back without their secrets, and otherwise as they were.** -/
theorem parse?_toJson (s : Settings) :
    parse? s.toJson.compact = some s.withoutSecrets ∧
      parse? s.toJson.indented = some s.withoutSecrets := by
  constructor
  · rw [parse?, Json.parse?_compact, Option.bind_eq_bind, Option.bind_some, s.read?_toJson]
  · rw [parse?, Json.parse?_indented, Option.bind_eq_bind, Option.bind_some, s.read?_toJson]

end Settings

end FrameSource
