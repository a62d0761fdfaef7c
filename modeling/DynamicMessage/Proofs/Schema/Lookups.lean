/-
# Proofs.Schema.Lookups -- the tables of a schema agree with its declarations

A schema keeps positions: of each type by name, and in each type of each field by number.  Since no
two names and no two numbers of a type are equal, a position that is looked up is that of the one
declaration with the name or the number, and every declaration is found (`Schema.ShowsTypes`,
`MessageType.LooksUp`).

A position is a 32-bit word, so the names agree only while there are fewer than 2 ^ 32 types.
-/
import DynamicMessage.AddressBook
import DynamicMessage.Proofs.Schema.Validation

namespace DynamicMessage

set_option autoImplicit false

/-- What the lookups in a message type find. -/
structure MessageType.LooksUp (t : MessageType) : Prop where
  field?_iff : ∀ n f, t.field? n = some f ↔ f ∈ t.fields ∧ f.number = n
  /-- No other field has the number. -/
  only : ∀ n f, t.field? n = some f → t.fields.filter (·.number = n) = [f]
  search : ∀ n, t.field? n = t.fields.find? (·.number = n)
  /-- The members of the oneofs together are the fields with a oneof. -/
  grouped : ∀ f, (∃ o, o.toNat < t.oneofs.length ∧ f ∈ t.membersOf o) ↔
    f ∈ t.fields ∧ f.oneof.isSome = true
  alone : ∀ f o o', f ∈ t.membersOf o → f ∈ t.membersOf o' → o = o'
  ordered : ∀ o, (t.membersOf o).Sublist t.fields

namespace Schema

/-- The schema shows the declarations `types`. -/
structure ShowsTypes (s : Schema) (types : List MessageType) : Prop where
  /-- The declared types in order, with the positions of their fields filled in. -/
  given : List.Forall₂ (fun bare t => t = { bare with positions := t.positions }) types s.types
  named : ∀ name index, s.indexNamed? name = some index ↔
    ∃ t, s.type? index = some t ∧ t.name = name
  each : ∀ index t, s.type? index = some t → t.LooksUp

/-! ## Types -/

/-- Where no two keys are equal, the rows are exactly those of the listed elements. -/
theorem Indexes.find?_eq_some_iff {α β κ : Type} [DecidableEq κ] {key : β → κ} {value : Nat → α}
    {result : Table κ α} {xs : List β} (indexes : Indexes key value ∅ xs result) (k : κ) (v : α) :
    result.find? k = some v ↔ ∃ i x, xs[i]? = some x ∧ key x = k ∧ value i = v := by
  rw [indexes.finds]
  constructor
  · intro found
    split at found
    · rename_i i first
      obtain ⟨below, same, -⟩ := List.findIdx?_eq_some_iff_getElem.1 first
      exact ⟨i, xs[i], List.getElem?_eq_getElem below, by simpa using same,
        Option.some.inj found⟩
    · simp at found
  · rintro ⟨i, x, listed, rfl, rfl⟩
    have first : xs.findIdx? (key · = key x) = some i := by
      obtain ⟨below, rfl⟩ := List.getElem?_eq_some_iff.1 listed
      refine List.findIdx?_eq_some_iff_getElem.2 ⟨below, by simp, fun j before => ?_⟩
      have differ := List.pairwise_iff_getElem.1 indexes.distinct j i (by simp; omega)
        (by simpa using below) before
      simpa using differ
    simp [first]

theorem indexType_positions {count : Nat} {bare t : MessageType}
    (built : indexType count bare = .ok t) : t = { bare with positions := t.positions } := by
  unfold indexType at built
  split at built
  · simp at built
  · split at built
    · simp at built
    · simp only [Except.ok.injEq] at built
      subst built
      rfl

theorem names_eq_of_indexed {count : Nat} {types result : List MessageType}
    (each : List.Forall₂ (fun bare t => indexType count bare = .ok t) types result) :
    result.map (·.name) = types.map (·.name) := by
  induction each with
  | nil => rfl
  | cons built _ ih =>
    have same := congrArg MessageType.name (indexType_positions built)
    rw [List.map_cons, List.map_cons, ih, same]

/-- A name is looked up at the position of the type that has it. -/
theorem indexNamed?_eq_some_iff {s : Schema} {id : Nat} {types : List MessageType}
    (made : declare id types = .ok s) (few : types.length < 4294967296) (name : String)
    (index : MessageIndex) :
    s.indexNamed? name = some index ↔ ∃ t, s.type? index = some t ∧ t.name = name := by
  obtain ⟨each, indexes⟩ := declare_ok made
  have shown : (∃ t, s.type? index = some t ∧ t.name = name) ↔
      ∃ bare, types[index.toNat]? = some bare ∧ bare.name = name := by
    rw [← Option.map_eq_some_iff, ← Option.map_eq_some_iff, type?, ← List.getElem?_map,
      ← List.getElem?_map, names_eq_of_indexed each]
  rw [indexNamed?, indexes.find?_eq_some_iff, shown]
  constructor
  · rintro ⟨i, bare, listed, named, rfl⟩
    have below := (List.getElem?_eq_some_iff.1 listed).1
    rw [UInt32.toNat_ofNat', Nat.mod_eq_of_lt (by omega)]
    exact ⟨bare, listed, named⟩
  · rintro ⟨bare, listed, named⟩
    exact ⟨index.toNat, bare, listed, named, UInt32.ofNat_toNat⟩

/-! ## Fields -/

theorem IsIndexed.field?_eq_some_iff {count : Nat} {t : MessageType} (indexed : IsIndexed count t)
    (n : FieldNumber) (f : Field) : t.field? n = some f ↔ f ∈ t.fields ∧ f.number = n := by
  constructor
  · intro found
    rw [indexed.field?_eq_find?] at found
    exact ⟨List.mem_of_find?_eq_some found, by simpa using List.find?_some found⟩
  · rintro ⟨listed, rfl⟩
    exact indexed.field?_of_mem listed

theorem IsIndexed.looksUp {count : Nat} {t : MessageType} (indexed : IsIndexed count t) :
    t.LooksUp where
  field?_iff := indexed.field?_eq_some_iff
  only n f found := by
    obtain ⟨listed, rfl⟩ := (indexed.field?_eq_some_iff n f).1 found
    exact filter_number_of_mem indexed.distinct listed
  search := indexed.field?_eq_find?
  grouped f := by
    simp only [t.mem_membersOf_iff]
    constructor
    · rintro ⟨o, -, listed, grouped⟩
      exact ⟨listed, by simp [grouped]⟩
    · rintro ⟨listed, grouped⟩
      obtain ⟨o, grouped⟩ := Option.isSome_iff_exists.1 grouped
      have formed := fieldFault?_eq_none_iff_wellFormed.1 (indexed.faultless f listed)
      exact ⟨o, (formed.oneof o grouped).1, listed, grouped⟩
  alone f o o' member member' := by
    have grouped := ((t.mem_membersOf_iff o f).1 member).2
    rw [((t.mem_membersOf_iff o' f).1 member').2] at grouped
    exact (Option.some.inj grouped).symm
  ordered o := List.filter_sublist

/-- The schema that declarations make shows them: the given types and fields in the given order, a
name for the position of its type, a number for its only field, and the oneofs as groups of fields.
-/
theorem declare_showsTypes {s : Schema} {id : Nat} {types : List MessageType}
    (made : declare id types = .ok s) (few : types.length < 4294967296) : s.ShowsTypes types where
  given := (declare_ok made).1.imp fun _ _ => indexType_positions
  named := indexNamed?_eq_some_iff made few
  each _ _ found := (Declared.isIndexed ⟨id, types, made⟩ found).looksUp

end Schema

namespace AddressBook

/-- The address book shows its two declarations. -/
theorem schema_showsTypes :
    Schema.declare 0 types = .ok schema ∧ types.length < 4294967296 ∧ schema.ShowsTypes types :=
  ⟨declare_types, by decide, Schema.declare_showsTypes declare_types (by decide)⟩

end AddressBook

end DynamicMessage
