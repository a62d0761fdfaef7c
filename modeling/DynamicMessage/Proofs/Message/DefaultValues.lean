/-
# Proofs.Message.DefaultValues -- whether the default of a field can be used

A default can be used if exactly the composite fields have none, and every message takes the default
of a field for the field (`Field.DefaultUsable`).  Three places have to agree on which fields those
are.  The check of a declared default and the default itself go by the cardinality and the kind
(`Field.IsOneScalar`); setting looks at the key kind first.

They agree on every field but one shape, a map that was made singular afterwards
(`Field.IsSingularMap`): it is composite, and still has the default of one scalar, which no message
takes.
-/
import DynamicMessage.Proofs.Message.Acceptance
import DynamicMessage.Proofs.Message.Defaults
import DynamicMessage.Proofs.Schema.Validation

namespace DynamicMessage

set_option autoImplicit false

namespace Field

/-- The default of the field `f` of the type at `index` can be used. -/
structure DefaultUsable (f : Field) (s : Schema) (index : MessageIndex) : Prop where
  none_iff : f.default? = none ↔ f.isComposite = true
  member : ∀ x, f.default? = some x → x.member = f.kind.member
  /-- Every message of the type takes the default for the field. -/
  accepted : ∀ x, f.default? = some x → ∀ m : Message, m.schema = s → m.index = index →
    (m.set f.number (.scalar x)).result = .ok ()
  declared : f.declaredDefault ≠ .undeclared →
    f.cardinality ≠ .repeated ∧ f.isMap = false ∧ f.kind.messageIndex? = none

/-- By its cardinality and its kind, the field holds one scalar. -/
def IsOneScalar (f : Field) : Prop := f.cardinality ≠ .repeated ∧ f.kind.messageIndex? = none

/-- A map from keys to scalars whose cardinality was overwritten. -/
def IsSingularMap (f : Field) : Prop := f.isMap = true ∧ f.IsOneScalar

variable {f : Field} {x : Scalar}

theorem isComposite_iff_isMap_or (f : Field) :
    f.isComposite = true ↔ f.isMap = true ∨ ¬f.IsOneScalar := by
  simp only [isComposite, isList, isMap, IsOneScalar, Bool.or_eq_true, Bool.and_eq_true,
    decide_eq_true_eq]
  cases f.mapKey <;> cases f.kind.messageIndex? <;> simp

theorem IsOneScalar.exists_scalar (one : f.IsOneScalar) : ∃ k, f.kind = .scalar k :=
  f.kind.messageIndex?_eq_none_iff.1 one.2

/-- Only a field of one scalar declares a default. -/
theorem DefaultSuits.isOneScalar (suits : f.DefaultSuits)
    (declared : f.declaredDefault ≠ .undeclared) : f.IsOneScalar := by
  cases suits with
  | undeclared none => exact absurd none declared
  | scalar single kind => exact ⟨single, by rw [kind, Kind.messageIndex?]⟩

/-- A field of one scalar has a default, and the default has its member. -/
theorem DefaultSuits.exists_default (suits : f.DefaultSuits) (one : f.IsOneScalar) :
    ∃ x, f.default? = some x ∧ x.member = f.kind.member := by
  obtain ⟨k, kind⟩ := one.exists_scalar
  cases suits with
  | undeclared none =>
    exact ⟨k.zero, by simp [default?, one.1, none, kind, Kind.zero?],
      by rw [k.member_zero, kind, Kind.member]⟩
  | @scalar _ x _ kind' declared same =>
    exact ⟨x, by simp [default?, one.1, declared], by rw [same, kind', Kind.member]⟩

/-- No other field has one. -/
theorem DefaultSuits.isOneScalar_of_default? (suits : f.DefaultSuits)
    (default : f.default? = some x) : f.IsOneScalar := by
  have single : f.cardinality ≠ .repeated := by
    intro repeated
    simp [default?, repeated] at default
  cases suits with
  | undeclared none =>
    refine ⟨single, ?_⟩
    cases kind : f.kind <;> simp_all [default?, Kind.zero?, Kind.messageIndex?]
  | scalar _ kind => exact ⟨single, by rw [kind, Kind.messageIndex?]⟩

theorem DefaultSuits.default?_eq_none_iff (suits : f.DefaultSuits) :
    f.default? = none ↔ ¬f.IsOneScalar := by
  constructor
  · rintro none one
    obtain ⟨x, default, -⟩ := suits.exists_default one
    simp [none] at default
  · intro other
    exact Option.eq_none_iff_forall_ne_some.2 fun x default =>
      other (suits.isOneScalar_of_default? default)

/-- A field of one scalar that is no map takes the scalars of its member. -/
theorem IsOneScalar.answer_scalar (one : f.IsOneScalar) (s : Schema) (unkeyed : f.isMap = false)
    (same : x.member = f.kind.member) : f.answer s (.scalar x) = .ok () := by
  obtain ⟨k, kind⟩ := one.exists_scalar
  have single : f.isList = false := by simp [isList, one.1]
  refine answer_of_fits (by simp) (.singular (by simpa [isMap] using unkeyed) single ?_)
  rw [kind] at same ⊢
  exact .scalar same

/-- A map takes no scalar. -/
theorem answer_scalar_of_isMap (s : Schema) (keyed : f.isMap = true) (x : Scalar) :
    f.answer s (.scalar x) = .error (.typeMismatch (.member .map) x.member) := by
  obtain ⟨key, keyed⟩ := Option.isSome_iff_exists.1 keyed
  exact answer_of_misfit (by simp) (by simp only [misfit?, keyed]; rfl)

end Field

section Declared

variable {s : Schema} {index : MessageIndex} {t : MessageType} {f : Field}

/-- Every message answers for a declared field what the field does. -/
theorem Schema.Declared.result_set (declared : s.Declared) (found : s.type? index = some t)
    (listed : f ∈ t.fields) {m : Message} (schema : m.schema = s) (type : m.index = index)
    (v : Value) : (m.set f.number v).result = f.answer s v := by
  subst schema type
  refine Message.result_set_of_field? (Schema.typeAt_of_type? found) ?_ v
  rw [Message.field?, (declared.isIndexed found).field?_of_mem listed]

theorem Schema.Declared.wellFormed (declared : s.Declared) (found : s.type? index = some t)
    (listed : f ∈ t.fields) : f.WellFormed s.size t :=
  Schema.fieldFault?_eq_none_iff_wellFormed.1 ((declared.isIndexed found).faultless f listed)

/-- Where a field is no map that was made singular, its default can be used. -/
theorem Schema.Declared.defaultUsable (declared : s.Declared) (found : s.type? index = some t)
    (listed : f ∈ t.fields) (uniform : ¬f.IsSingularMap) : f.DefaultUsable s index := by
  have suits := (declared.wellFormed found listed).default
  have unkeyed (one : f.IsOneScalar) : f.isMap = false :=
    Bool.eq_false_iff.2 fun keyed => uniform ⟨keyed, one⟩
  have scalar (x : Scalar) (default : f.default? = some x) :
      f.IsOneScalar ∧ x.member = f.kind.member := by
    have one := suits.isOneScalar_of_default? default
    obtain ⟨y, default', same⟩ := suits.exists_default one
    rw [← Option.some.inj (default.symm.trans default')] at same
    exact ⟨one, same⟩
  refine
    { none_iff := ?_
      member := fun x default => (scalar x default).2
      accepted := fun x default m schema type => ?_
      declared := fun some => ?_ }
  · rw [suits.default?_eq_none_iff, f.isComposite_iff_isMap_or]
    refine ⟨.inr, fun composite one => ?_⟩
    rcases composite with keyed | other
    · simp [unkeyed one] at keyed
    · exact other one
  · obtain ⟨one, same⟩ := scalar x default
    rw [declared.result_set found listed schema type]
    exact one.answer_scalar s (unkeyed one) same
  · have one := suits.isOneScalar some
    exact ⟨one.1, unkeyed one, one.2⟩

/-- The default of a declared field can be used, unless the field is a map that was made singular;
such a map has a default of the kind of its values, and every message refuses it. -/
theorem declared_default_decided (declared : s.Declared) (found : s.type? index = some t)
    (listed : f ∈ t.fields) :
    (f.DefaultUsable s index ↔ ¬f.IsSingularMap) ∧
      (f.IsSingularMap → ∃ x, f.default? = some x ∧ x.member = f.kind.member ∧
        ∀ m : Message, m.schema = s → m.index = index →
          (m.set f.number (.scalar x)).result =
            .error (.typeMismatch (.member .map) x.member)) := by
  have suits := (declared.wellFormed found listed).default
  refine ⟨⟨?_, declared.defaultUsable found listed⟩, ?_⟩
  · rintro usable ⟨keyed, one⟩
    have none := usable.none_iff.2 (f.isComposite_iff_isMap_or.2 (.inl keyed))
    exact suits.default?_eq_none_iff.1 none one
  · rintro ⟨keyed, one⟩
    obtain ⟨x, default, same⟩ := suits.exists_default one
    refine ⟨x, default, same, fun m schema type => ?_⟩
    rw [declared.result_set found listed schema type, Field.answer_scalar_of_isMap s keyed]

end Declared

namespace AddressBook

/-- A map from texts to numbers that was made singular. -/
def tally : Field :=
  .optional (.map { number := 1, name := "tally", kind := .scalar .int32 } (.scalar .string))

/-- Another one, which declares a default. -/
def opening : Field :=
  .withDefault { tally with number := 2, name := "opening" } (.scalar (.i32 5))

def ledgerTypes : List MessageType := [{ name := "tutorial.Ledger", fields := [tally, opening] }]

def ledgers : Schema := (Schema.declare 1 ledgerTypes).toOption.getD ⟨1, [], ∅⟩

theorem declare_ledgerTypes : Schema.declare 1 ledgerTypes = .ok ledgers :=
  Schema.declare_eq_ok_of_isOk _ (by decide +kernel)

theorem exists_ledgerType :
    ∃ t, ledgers.type? 0 = some t ∧ tally ∈ t.fields ∧ opening ∈ t.fields := by
  have fields : (ledgers.type? 0).map (·.fields) = some [tally, opening] := by decide +kernel
  obtain ⟨t, found, same⟩ := Option.map_eq_some_iff.1 fields
  exact ⟨t, found, by simp [same], by simp [same]⟩

/-- The declared type of a phone number can be used, and a singular map has no default that can. -/
theorem phoneType_default_usable :
    schema.Declared ∧ phoneType.default? = some (.enum 1) ∧
      phoneType.DefaultUsable schema phoneNumber ∧
      ledgers.Declared ∧ ¬tally.DefaultUsable ledgers 0 := by
  have fields : (schema.type? phoneNumber).map (·.fields) = some phoneNumberType.fields := by
    decide +kernel
  obtain ⟨t, found, same⟩ := Option.map_eq_some_iff.1 fields
  have declared : schema.Declared := ⟨0, types, declare_types⟩
  have uniform : ¬phoneType.IsSingularMap := by
    rintro ⟨keyed, -⟩
    cases keyed
  have usable := (declared_default_decided declared found (f := phoneType)
    (by rw [same]; decide)).1.2 uniform
  obtain ⟨t', found', listed, -⟩ := exists_ledgerType
  have declared' : ledgers.Declared := ⟨1, ledgerTypes, declare_ledgerTypes⟩
  have map : tally.IsSingularMap := ⟨by decide, by decide, by decide⟩
  refine ⟨declared, by decide, usable, declared', fun usable' => ?_⟩
  exact (declared_default_decided declared' found' listed).1.1 usable' map

/-- The tally is a map and has the default 0, the other map even declares one, and a ledger refuses
both. -/
theorem tally_default_refused :
    Schema.declare 1 ledgerTypes = .ok ledgers ∧
      tally.isComposite = true ∧ tally.default? = some (.i32 0) ∧
      opening.isMap = true ∧ opening.declaredDefault = .scalar (.i32 5) ∧
      ∃ ledger, Message.new ledgers 0 = .ok ledger ∧
        (ledger.set 1 (.scalar (.i32 0))).result =
          .error (.typeMismatch (.member .map) .i32) ∧
        (ledger.set 2 (.scalar (.i32 5))).result =
          .error (.typeMismatch (.member .map) .i32) := by
  obtain ⟨t, found, listed, listed'⟩ := exists_ledgerType
  have declared : ledgers.Declared := ⟨1, ledgerTypes, declare_ledgerTypes⟩
  obtain ⟨ledger, made, schema, type⟩ :
      ∃ m, Message.new ledgers 0 = .ok m ∧ m.schema = ledgers ∧ m.index = 0 := by
    simp [Message.new, Message.zero, found, Schema.typeAt]
  refine ⟨declare_ledgerTypes, by decide, by decide, by decide, by decide, ledger, made, ?_, ?_⟩
  · rw [show (1 : FieldNumber) = tally.number from rfl,
      declared.result_set found listed schema type]
    exact Field.answer_scalar_of_isMap ledgers (by decide) (.i32 0)
  · rw [show (2 : FieldNumber) = opening.number from rfl,
      declared.result_set found listed' schema type]
    exact Field.answer_scalar_of_isMap ledgers (by decide) (.i32 5)

end AddressBook

end DynamicMessage
