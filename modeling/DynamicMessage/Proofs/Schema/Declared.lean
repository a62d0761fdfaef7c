/-
# Proofs.Schema.Declared -- what a declared schema guarantees

A schema that `Schema.declare` made has checked fields, its number tables find what a search of the
fields finds (`IsIndexed.field?_eq_find?`), and every message index it stores names one of its types
(`names_of_faultless`), so that making a message of it cannot fail.
-/
import DynamicMessage.Message.Basic
import Mathlib.Data.List.Forall2

namespace DynamicMessage

set_option autoImplicit false

namespace Schema

/-- The schema was made of declarations. -/
def Declared (s : Schema) : Prop := ∃ id types, declare id types = .ok s

/-- The message type that a kind names, if it names one, is in the schema. -/
def Names (s : Schema) (kind : Kind) : Prop :=
  ∀ index, kind.messageIndex? = some index → ∃ t, s.type? index = some t

/-! ## Building the tables -/

/-- The table `result` is `found` with a row for each of `xs`, whose keys are new and pairwise
different, and the row of `xs[i]` holds `value i`. -/
structure Indexes {α β κ : Type} [DecidableEq κ] (key : β → κ) (value : Nat → α)
    (found : Table κ α) (xs : List β) (result : Table κ α) : Prop where
  fresh : ∀ x ∈ xs, found.find? (key x) = none
  distinct : (xs.map key).Nodup
  finds : ∀ k, result.find? k =
    match xs.findIdx? (key · = k) with
    | some i => some (value i)
    | none => found.find? k

namespace Indexes

variable {α β κ : Type} [DecidableEq κ] {key : β → κ} {value : Nat → α} {found result : Table κ α}
  {x : β} {xs : List β}

theorem nil : Indexes key value found [] found := ⟨by simp, by simp, by simp⟩

/-- A row for the first, then rows for the others. -/
theorem cons [Ord κ] [Std.LawfulEqOrd κ] (fresh : found.find? (key x) = none)
    (rest : Indexes key (fun i => value (i + 1)) (found.insert (key x) (value 0)) xs result) :
    Indexes key value found (x :: xs) result := by
  have later : ∀ y ∈ xs, key y ≠ key x ∧ found.find? (key y) = none := by
    intro y member
    have absent := rest.fresh y member
    rw [Table.find?_insert] at absent
    split at absent
    · simp at absent
    · rename_i differ
      exact ⟨differ, absent⟩
  refine ⟨?_, ?_, ?_⟩
  · intro y member
    rcases List.mem_cons.1 member with rfl | member
    · exact fresh
    · exact (later y member).2
  · rw [List.map_cons, List.nodup_cons]
    refine ⟨?_, rest.distinct⟩
    intro again
    obtain ⟨y, member, same⟩ := List.mem_map.1 again
    exact (later y member).1 same
  · intro k
    rw [rest.finds k, List.findIdx?_cons]
    by_cases same : key x = k
    · have absent : xs.findIdx? (key · = k) = none := by
        rw [List.findIdx?_eq_none_iff]
        intro y member
        have := (later y member).1
        simpa [← same] using this
      simp [absent, same, Table.find?_insert]
    · cases xs.findIdx? (key · = k) with
      | none => simp [same, Table.find?_insert, Ne.symm same]
      | some i => simp [same]

end Indexes

/-- Fields that are indexed are faultless, and each number is found at its position. -/
theorem indexFields_ok {count : Nat} {t : MessageType} {position : Nat}
    {found result : Table FieldNumber Nat} {fields : List Field}
    (built : indexFields count t position found fields = .ok result) :
    (∀ f ∈ fields, fieldFault? count t f = none) ∧
      Indexes (·.number) (position + ·) found fields result := by
  induction fields generalizing position found with
  | nil =>
    simp only [indexFields, Except.ok.injEq] at built
    subst built
    exact ⟨by simp, .nil⟩
  | cons f fields ih =>
    simp only [indexFields] at built
    split at built
    · simp at built
    · rename_i faultless
      split at built
      · simp at built
      · rename_i fresh
        obtain ⟨each, rest⟩ := ih built
        refine ⟨?_, .cons (by simpa [Table.contains] using fresh) ?_⟩
        · intro g member
          rcases List.mem_cons.1 member with rfl | member
          · exact faultless
          · exact each g member
        · simpa only [Nat.add_zero, Nat.add_assoc, Nat.add_comm 1] using rest

/-- Each name is found at its position, also where the position wraps around. -/
theorem indexNames_ok {index : Nat} {found result : Table String MessageIndex}
    {types : List MessageType} (built : indexNames index found types = .ok result) :
    Indexes (·.name) (fun i => UInt32.ofNat (index + i)) found types result := by
  induction types generalizing index found with
  | nil =>
    simp only [indexNames, Except.ok.injEq] at built
    subst built
    exact .nil
  | cons t types ih =>
    simp only [indexNames] at built
    split at built
    · simp at built
    · rename_i fresh
      refine .cons (by simpa [Table.contains] using fresh) ?_
      simpa only [Nat.add_zero, Nat.add_assoc, Nat.add_comm 1] using ih built

/-- What an indexed type guarantees: its own fields are faultless, and its table finds what a search
of the fields finds. -/
structure IsIndexed (count : Nat) (t : MessageType) : Prop where
  faultless : ∀ f ∈ t.fields, fieldFault? count t f = none
  distinct : (t.fields.map (·.number)).Nodup
  field?_eq_find? : ∀ n, t.field? n = t.fields.find? (·.number = n)

/-- Where no number is listed twice, a listed field is the only one of its number. -/
theorem filter_number_of_mem {fields : List Field} (distinct : (fields.map (·.number)).Nodup)
    {f : Field} (listed : f ∈ fields) : fields.filter (·.number = f.number) = [f] := by
  induction fields with
  | nil => simp at listed
  | cons g fields ih =>
    obtain ⟨fresh, distinct⟩ := List.nodup_cons.1 distinct
    rcases List.mem_cons.1 listed with rfl | later
    · have others : fields.filter (·.number = f.number) = [] := by
        refine List.filter_eq_nil_iff.2 fun g member same => fresh ?_
        exact List.mem_map.2 ⟨g, member, by simpa using same⟩
      simp [others]
    · have differ : g.number ≠ f.number := fun same =>
        fresh (List.mem_map.2 ⟨f, later, same.symm⟩)
      rw [List.filter_cons_of_neg (by simpa using differ)]
      exact ih distinct later

/-- So a search for its number finds it. -/
theorem find?_number_of_mem {fields : List Field} (distinct : (fields.map (·.number)).Nodup)
    {f : Field} (listed : f ∈ fields) : fields.find? (·.number = f.number) = some f := by
  rw [← List.head?_filter, filter_number_of_mem distinct listed]
  rfl

/-- A listed field is the field of its number. -/
theorem IsIndexed.field?_of_mem {count : Nat} {t : MessageType} (indexed : IsIndexed count t)
    {f : Field} (listed : f ∈ t.fields) : t.field? f.number = some f := by
  rw [indexed.field?_eq_find?]
  exact find?_number_of_mem indexed.distinct listed

/-- A number without a field is that of no listed field. -/
theorem IsIndexed.field?_eq_none_iff {count : Nat} {t : MessageType} (indexed : IsIndexed count t)
    (n : FieldNumber) : t.field? n = none ↔ ∀ f ∈ t.fields, f.number ≠ n := by
  simp [indexed.field?_eq_find?]

theorem indexType_ok {count : Nat} {t result : MessageType}
    (built : indexType count t = .ok result) : IsIndexed count result := by
  unfold indexType at built
  split at built
  · simp at built
  · rename_i positions indexed
    split at built
    · simp at built
    · simp only [Except.ok.injEq] at built
      subst built
      obtain ⟨each, indexes⟩ := indexFields_ok indexed
      refine ⟨each, indexes.distinct, fun n => ?_⟩
      rw [MessageType.field?, indexes.finds n, List.find?_eq_bind_findIdx?_getElem?]
      cases t.fields.findIdx? (·.number = n) with
      | none => simp
      | some i => simp

theorem numberFault?_eq_none_iff (message : String) (n : FieldNumber) :
    numberFault? message n = none ↔ n.InRange := by
  simp [numberFault?]

/-- The extension ranges of an indexed type are faultless. -/
theorem rangeFault?_of_indexType {count : Nat} {t result : MessageType}
    (built : indexType count t = .ok result) :
    ∀ r ∈ result.extensionRanges, rangeFault? result r = none := by
  unfold indexType at built
  split at built
  · simp at built
  · split at built
    · simp at built
    · rename_i faultless
      simp only [Except.ok.injEq] at built
      subst built
      exact List.findSome?_eq_none_iff.1 faultless

/-- Indexing types indexes each of them. -/
theorem indexTypes_ok {count : Nat} {types result : List MessageType}
    (built : indexTypes count types = .ok result) :
    List.Forall₂ (fun bare t => indexType count bare = .ok t) types result := by
  induction types generalizing result with
  | nil =>
    simp only [indexTypes, Except.ok.injEq] at built
    subst built
    exact .nil
  | cons t types ih =>
    simp only [indexTypes] at built
    split at built
    · simp at built
    · rename_i first indexed
      split at built
      · simp at built
      · rename_i rest others
        simp only [Except.ok.injEq] at built
        subst built
        exact .cons indexed (ih others)

/-! ## Declared schemas -/

/-- The parts of a declared schema: its types were indexed one by one, and its names. -/
theorem declare_ok {id : Nat} {types : List MessageType} {s : Schema}
    (made : declare id types = .ok s) :
    List.Forall₂ (fun bare t => indexType types.length bare = .ok t) types s.types ∧
      Indexes (·.name) UInt32.ofNat ∅ types s.indexes := by
  unfold declare at made
  split at made
  · simp at made
  · rename_i indexes named
    split at made
    · simp at made
    · rename_i result built
      simp only [Except.ok.injEq] at made
      subst made
      exact ⟨indexTypes_ok built, by simpa using indexNames_ok named⟩

namespace Declared

variable {s : Schema}

/-- Every type of a declared schema was indexed. -/
theorem indexed (declared : s.Declared) :
    ∀ t ∈ s.types, ∃ bare, indexType s.size bare = .ok t := by
  obtain ⟨id, types, made⟩ := declared
  obtain ⟨each, -⟩ := declare_ok made
  rw [each.length_eq] at each
  intro t member
  obtain ⟨i, below, rfl⟩ := List.getElem_of_mem member
  have below' : i < types.length := each.length_eq ▸ below
  exact ⟨types[i], each.get below' below⟩

/-- Every position that a name is indexed at is below the number of types, also where it wraps
around. -/
theorem indexNamed?_lt (declared : s.Declared) {name : String} {index : MessageIndex}
    (found : s.indexNamed? name = some index) : index.toNat < s.size := by
  obtain ⟨id, types, made⟩ := declared
  obtain ⟨each, named⟩ := declare_ok made
  rw [indexNamed?, named.finds name] at found
  split at found
  · rename_i i listed
    simp only [Option.some.injEq] at found
    subst found
    have below := List.findIdx?_eq_some_iff_getElem.1 listed
    obtain ⟨below, -⟩ := below
    have := Nat.mod_le i 4294967296
    rw [UInt32.toNat_ofNat', size, ← each.length_eq]
    omega
  · simp at found

theorem isIndexed (declared : s.Declared) {index : MessageIndex} {t : MessageType}
    (found : s.type? index = some t) : IsIndexed s.size t := by
  obtain ⟨bare, built⟩ := declared.indexed t (List.mem_of_getElem? found)
  exact indexType_ok built

/-- The numbers that a type of a declared schema opens to extensions are in range. -/
theorem inRange_of_isOpenTo (declared : s.Declared) {index : MessageIndex} {t : MessageType}
    (found : s.type? index = some t) {n : FieldNumber} (ranged : t.isOpenTo n = true) :
    n.InRange := by
  obtain ⟨bare, built⟩ := declared.indexed t (List.mem_of_getElem? found)
  obtain ⟨r, listed, above, below⟩ := (t.isOpenTo_iff n).1 ranged
  have faultless := rangeFault?_of_indexType built r listed
  simp only [rangeFault?, Option.or_eq_none_iff, numberFault?_eq_none_iff] at faultless
  obtain ⟨⟨smallest, -⟩, ⟨-, largest⟩, -⟩ := faultless
  exact ⟨UInt32.le_trans smallest above, UInt32.le_trans below largest⟩

end Declared

/-- A position below the number of types is the position of one. -/
theorem type?_of_lt {s : Schema} {index : MessageIndex} (below : index.toNat < s.size) :
    ∃ t, s.type? index = some t :=
  ⟨s.types[index.toNat], List.getElem?_eq_getElem below⟩

theorem typeAt_of_type? {s : Schema} {index : MessageIndex} {t : MessageType}
    (found : s.type? index = some t) : s.typeAt index = .ok t := by
  rw [typeAt, found]

theorem type?_of_typeAt {s : Schema} {index : MessageIndex} {t : MessageType}
    (found : s.typeAt index = .ok t) : s.type? index = some t := by
  unfold typeAt at found
  split at found
  · rename_i same
    rw [same, Except.ok.inj found]
  · simp at found

/-! ## Faultless fields -/

section Faultless

variable {s : Schema} {t : MessageType} {f : Field}

theorem fieldFault?_eq_none_iff (count : Nat) (t : MessageType) (f : Field) :
    fieldFault? count t f = none ↔ numberFault? t.name f.number = none ∧
      kindFault? count t f = none ∧ mapKeyFault? t f = none ∧ oneofFault? t f = none ∧
        defaultFault? t f = none := by
  simp only [fieldFault?, Option.or_eq_none_iff]

/-- A faultless field's kind names a type of the schema, if it names one. -/
theorem names_of_faultless (faultless : fieldFault? s.size t f = none) : s.Names f.kind := by
  have kind := ((fieldFault?_eq_none_iff _ _ _).1 faultless).2.1
  intro index named
  simp only [kindFault?, named] at kind
  split at kind
  · rename_i below
    exact type?_of_lt below
  · simp at kind

/-- A faultless field's key kind may key a map. -/
theorem isKey_of_faultless (faultless : fieldFault? s.size t f = none) {key : Kind}
    (keyed : f.mapKey = some key) : key.isKey = true := by
  have fault := ((fieldFault?_eq_none_iff _ _ _).1 faultless).2.2.1
  simp only [mapKeyFault?, keyed] at fault
  split at fault
  · assumption
  · simp at fault

/-- A faultless member of a oneof has presence. -/
theorem nullable_of_faultless (faultless : fieldFault? s.size t f = none) {o : UInt32}
    (grouped : f.oneof = some o) : f.isNullable = true := by
  have fault := ((fieldFault?_eq_none_iff _ _ _).1 faultless).2.2.2.1
  have single : f.cardinality ≠ .repeated := by
    intro repeated
    simp [oneofFault?, grouped, repeated] at fault
  simp [Field.isNullable, single, grouped]

end Faultless

end Schema

end DynamicMessage
