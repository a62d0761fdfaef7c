/-
# Proofs.Message.Defaults -- reading a scalar field back through its default

A reader of a scalar field takes what is set, and the default of the field where nothing is
(`Message.effective`).  Whether a value that is set comes back from there is decided in three
places: whether the field has presence, which value leaves it unset, and what its default is.  They
agree for every value but one.  The zero of its kind leaves a field without presence unset, also
where the field declares another default, and there zero comes back as that default
(`Field.LosesZero`).
-/
import DynamicMessage.Proofs.Message.LastWrite

namespace DynamicMessage

set_option autoImplicit false

/-- A field without presence whose default is not the zero of its kind. -/
def Field.LosesZero (f : Field) : Prop := f.isNullable = false ∧ f.default? ≠ f.kind.zero?

theorem Value.ofScalar?_inj {a b : Option Scalar} (same : ofScalar? a = ofScalar? b) : a = b := by
  cases a <;> cases b <;> simp_all [ofScalar?]

namespace Message

/-- What a field stands for: its value where it is populated, else its default. -/
def effective (m : Message) (n : FieldNumber) (f : Field) : Value :=
  if m.has n then m.get n else .ofScalar? f.default?

variable {m : Message} {n : FieldNumber} {f : Field}

theorem effective_of_get_eq_null (unset : m.get n = .null) :
    m.effective n f = .ofScalar? f.default? := by
  have absent : ¬m.has n = true := by
    rw [has_iff_get_ne_null]
    exact fun notNull => notNull unset
  rw [effective, if_neg absent]

theorem effective_of_get_ne_null (set : m.get n ≠ .null) : m.effective n f = m.get n := by
  rw [effective, if_pos ((m.has_iff_get_ne_null n).2 set)]

/-- A value that a scalar field accepts is read back through the default, unless it is the zero that
the field loses. -/
theorem effective_set_eq_iff (reachable : Reachable (.message m)) (has : m.HasField n f)
    (scalar : f.isComposite = false) {v : Value} (notNull : v ≠ .null)
    (accepted : (m.set n v).result = .ok ()) :
    (m.set n v).state.effective n f = v ↔ ¬(f.LosesZero ∧ v = f.zero) := by
  obtain ⟨t, sound⟩ := reachable.sound.here
  have field := (sound.hasField_iff n f).1 has
  by_cases told : f.isNullable = true ∨ v ≠ f.zero
  · have read : (m.set n v).state.get n = v :=
      get_set_of_told sound.type field scalar accepted notNull told
    have set : (m.set n v).state.get n ≠ .null := by rwa [read]
    rw [effective_of_get_ne_null set, read]
    refine ⟨?_, fun _ => rfl⟩
    rintro - ⟨⟨implicit, -⟩, zero⟩
    rcases told with nullable | differ
    · simp [nullable] at implicit
    · exact differ zero
  · have untold : f.isNullable = false ∧ v = f.zero := by simpa using told
    have unset := get_set_of_untold sound.type field scalar accepted (.inr untold)
    rw [effective_of_get_eq_null unset, untold.2, Field.zero]
    constructor
    · rintro same ⟨⟨-, differ⟩, -⟩
      exact differ (Value.ofScalar?_inj same)
    · intro keeps
      have same : f.default? = f.kind.zero? := by
        by_cases same : f.default? = f.kind.zero?
        · exact same
        · exact absurd ⟨⟨untold.1, same⟩, rfl⟩ keeps
      rw [same]

end Message

namespace AddressBook

/-- A phone number without fields. -/
def phone : Message :=
  { schema, index := phoneNumber, fields := ∅, extensions := .empty,
    unknown := { isSupported := true } }

/-- The type of a phone number. -/
def phoneType : Field :=
  .withDefault { number := 2, name := "type", kind := .scalar .enum } (.scalar (.enum 1))

theorem reachable_phone : Reachable (.message phone) := by
  have keeps : (schema.type? phoneNumber).map (·.keepsUnknown) = some true := by decide +kernel
  obtain ⟨t, found, supported⟩ := Option.map_eq_some_iff.1 keeps
  have made : Message.new schema phoneNumber = .ok phone := by
    simp [Message.new, Message.zero, Schema.typeAt, found, supported, phone]
  exact .newMessage ⟨0, types, declare_types⟩ made

theorem hasField_phoneType : phone.HasField 2 phoneType := by
  have fields : (schema.type? phoneNumber).map (·.fields) = some phoneNumberType.fields := by
    decide +kernel
  obtain ⟨t, found, same⟩ := Option.map_eq_some_iff.1 fields
  refine .declared found ?_ rfl
  rw [same]
  decide

/-- A type other than zero comes back. -/
theorem phoneType_read_back :
    Reachable (.message phone) ∧ phone.HasField 2 phoneType ∧ phoneType.isComposite = false ∧
      (phone.set 2 (.scalar (.enum 2))).result = .ok () ∧
      (phone.set 2 (.scalar (.enum 2))).state.effective 2 phoneType = .scalar (.enum 2) := by
  have accepted : (phone.set 2 (.scalar (.enum 2))).result = .ok () :=
    eq_ok_of_isOk (by decide +kernel)
  have told : ¬(phoneType.LosesZero ∧ Value.scalar (.enum 2) = phoneType.zero) := by
    rintro ⟨-, zero⟩
    simp [phoneType, Field.zero, Field.withDefault, Kind.zero?, ScalarKind.zero, Value.ofScalar?]
      at zero
  have read := Message.effective_set_eq_iff reachable_phone hasField_phoneType (by decide)
    (by simp) accepted
  exact ⟨reachable_phone, hasField_phoneType, by decide, accepted, read.2 told⟩

/-- Zero is accepted for the type, and comes back as one. -/
theorem phoneType_zero_lost :
    Reachable (.message phone) ∧ phone.HasField 2 phoneType ∧ phoneType.isComposite = false ∧
      (phone.set 2 (.scalar (.enum 0))).result = .ok () ∧
      (phone.set 2 (.scalar (.enum 0))).state.effective 2 phoneType = .scalar (.enum 1) := by
  have accepted : (phone.set 2 (.scalar (.enum 0))).result = .ok () :=
    eq_ok_of_isOk (by decide +kernel)
  have absent : (phone.set 2 (.scalar (.enum 0))).state.has 2 = false := by decide +kernel
  refine ⟨reachable_phone, hasField_phoneType, by decide, accepted, ?_⟩
  rw [Message.effective, absent]
  rfl

end AddressBook

end DynamicMessage
