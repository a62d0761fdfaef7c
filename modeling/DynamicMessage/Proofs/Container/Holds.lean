/-
# Proofs.Container.Holds -- the values that suit a kind and a field

`Kind.Holds` and `Field.Holds` say in one line a shape which values may be stored, and the checks
of the writes refuse all others (`Schema.misfit?_eq_none_iff`, `Field.misfit?_eq_none_iff`).

A check looks no deeper than the header of a value: the schema, and the type or kinds that were
fixed when the value was made.  So what happens inside a stored value never makes it unfit
(`Field.Holds.of_header`).
-/
import DynamicMessage.Proofs.Schema.Declared
import DynamicMessage.Message.Write

namespace DynamicMessage

set_option autoImplicit false

/-! ## What suits -/

/-- The singular values of a kind in a schema. -/
inductive Kind.Holds (s : Schema) : Kind → Value → Prop where
  | scalar {k : ScalarKind} {x : Scalar} (same : x.member = k.member) :
      Kind.Holds s (.scalar k) (.scalar x)
  | message {kind : Kind} {m : Message} (type : kind.messageIndex? = some m.index)
      (same : m.schema = s) : Kind.Holds s kind (.message m)

/-- The values of a field in a schema. -/
inductive Field.Holds (s : Schema) (f : Field) : Value → Prop where
  | map {m : Map} (keyed : f.mapKey = some m.key) (kind : m.value = f.kind) (same : m.schema = s) :
      Field.Holds s f (.map m)
  | vector {v : Vector} (list : f.isList = true) (kind : v.kind = f.kind) (same : v.schema = s) :
      Field.Holds s f (.vector v)
  | singular {v : Value} (unkeyed : f.mapKey = none) (single : f.isList = false)
      (holds : f.kind.Holds s v) : Field.Holds s f v

/-! ## The checks of the writes -/

theorem Schema.misfit?_eq_none_iff (s : Schema) (kind : Kind) (v : Value) :
    s.misfit? kind v = none ↔ kind.Holds s v := by
  constructor
  · intro fits
    match kind, v with
    | .scalar k, .scalar x =>
      refine .scalar ?_
      by_cases same : k.member = x.member
      · exact same.symm
      · simp [Schema.misfit?, Kind.messageIndex?, Kind.accepts, same] at fits
    | .message index, .message m | .group index, .message m =>
      simp only [Schema.misfit?, Kind.messageIndex?] at fits
      split at fits
      · rename_i same
        exact .message (by simp [Kind.messageIndex?, same.2]) same.1
      · split at fits <;> simp at fits
    | .scalar k, .null | .scalar k, .composite c => simp [Schema.misfit?, Kind.messageIndex?] at fits
    | .message index, .null | .group index, .null => simp [Schema.misfit?, Kind.messageIndex?] at fits
    | .message index, .scalar x | .group index, .scalar x =>
      simp [Schema.misfit?, Kind.messageIndex?, Kind.accepts] at fits
    | .message index, .vector v | .group index, .vector v =>
      simp [Schema.misfit?, Kind.messageIndex?] at fits
    | .message index, .map m | .group index, .map m =>
      simp [Schema.misfit?, Kind.messageIndex?] at fits
  · intro holds
    cases holds with
    | scalar same => simp [Schema.misfit?, Kind.messageIndex?, Kind.accepts, same]
    | message type same => simp [Schema.misfit?, type, same]

/-- The check of a singular field is that of its kind. -/
theorem Field.misfit?_of_singular {f : Field} (unkeyed : f.mapKey = none) (single : f.isList = false)
    (s : Schema) (v : Value) : f.misfit? s v = s.misfit? f.kind v := by
  simp [Field.misfit?, unkeyed, single]

theorem Field.misfit?_eq_none_iff (f : Field) (s : Schema) (v : Value) :
    f.misfit? s v = none ↔ f.Holds s v := by
  cases keyed : f.mapKey with
  | some key =>
    constructor
    · intro fits
      simp only [Field.misfit?, keyed] at fits
      split at fits
      · split at fits
        · rename_i same
          exact .map (by rw [keyed, same.2.1]) same.2.2 same.1
        · simp at fits
      · simp at fits
    · intro holds
      cases holds with
      | map keyed' kind same =>
        rw [keyed, Option.some.injEq] at keyed'
        simp [Field.misfit?, keyed, kind, same, keyed'.symm]
      | vector list => simp [Field.isList, keyed] at list
      | singular unkeyed => simp [keyed] at unkeyed
  | none =>
    by_cases list : f.isList = true
    · constructor
      · intro fits
        simp only [Field.misfit?, keyed, list, ↓reduceIte] at fits
        split at fits
        · split at fits
          · rename_i same
            exact .vector list same.2 same.1
          · simp at fits
        · simp at fits
      · intro holds
        cases holds with
        | map keyed' => simp [keyed] at keyed'
        | vector _ kind same => simp [Field.misfit?, keyed, list, kind, same]
        | singular _ single => simp [list] at single
    · have single : f.isList = false := by simpa using list
      rw [Field.misfit?_of_singular keyed single, Schema.misfit?_eq_none_iff]
      constructor
      · exact .singular keyed single
      · intro holds
        cases holds with
        | map keyed' => simp [keyed] at keyed'
        | vector list => simp [single] at list
        | singular _ _ holds => exact holds

/-! ## What suits is never null -/

theorem Kind.Holds.not_null {s : Schema} {kind : Kind} {v : Value} (holds : kind.Holds s v) :
    v.isNull = false := by
  cases holds <;> rfl

/-- A singular value that suits is populated. -/
theorem Kind.Holds.isPopulated {s : Schema} {kind : Kind} {v : Value} (holds : kind.Holds s v) :
    v.isPopulated = true := by
  cases holds <;> rfl

theorem Field.Holds.not_null {s : Schema} {f : Field} {v : Value} (holds : f.Holds s v) :
    v.isNull = false := by
  cases holds with
  | map => rfl
  | vector => rfl
  | singular _ _ holds => exact holds.not_null

/-! ## Headers -/

/-- What is fixed about a composite when it is made. -/
inductive Header where
  | message (s : Schema) (index : MessageIndex)
  | vector (s : Schema) (kind : Kind)
  | map (s : Schema) (key value : Kind)

/-- The header of a composite. -/
def Composite.header : Composite → Header
  | .message m => .message m.schema m.index
  | .vector v => .vector v.schema v.kind
  | .map m => .map m.schema m.key m.value

/-- The schema of a composite. -/
def Composite.schema : Composite → Schema
  | .message m => m.schema
  | .vector v => v.schema
  | .map m => m.schema

/-- What suits a kind is known from the header. -/
theorem Kind.Holds.of_header {s : Schema} {kind : Kind} {c c' : Composite}
    (holds : kind.Holds s (.composite c)) (same : c'.header = c.header) :
    kind.Holds s (.composite c') := by
  cases holds with
  | message type schema =>
    cases c' with
    | message m' =>
      simp only [Composite.header, Header.message.injEq] at same
      exact .message (by rw [type, same.2]) (by rw [same.1, schema])
    | vector v => simp [Composite.header] at same
    | map m => simp [Composite.header] at same

/-- What suits a field is known from the header. -/
theorem Field.Holds.of_header {s : Schema} {f : Field} {c c' : Composite}
    (holds : f.Holds s (.composite c)) (same : c'.header = c.header) :
    f.Holds s (.composite c') := by
  cases holds with
  | map keyed kind schema =>
    cases c' with
    | map m' =>
      simp only [Composite.header, Header.map.injEq] at same
      exact .map (by rw [keyed, same.2.1]) (by rw [same.2.2, kind]) (by rw [same.1, schema])
    | message m => simp [Composite.header] at same
    | vector v => simp [Composite.header] at same
  | vector list kind schema =>
    cases c' with
    | vector v' =>
      simp only [Composite.header, Header.vector.injEq] at same
      exact .vector list (by rw [same.2, kind]) (by rw [same.1, schema])
    | message m => simp [Composite.header] at same
    | map m => simp [Composite.header] at same
  | singular unkeyed single holds => exact .singular unkeyed single (holds.of_header same)

/-- Where a composite suits, it is one of the schema. -/
theorem Kind.Holds.schema_eq {s : Schema} {kind : Kind} {c : Composite}
    (holds : kind.Holds s (.composite c)) : c.schema = s := by
  cases holds with
  | message _ same => exact same

theorem Field.Holds.schema_eq {s : Schema} {f : Field} {c : Composite}
    (holds : f.Holds s (.composite c)) : c.schema = s := by
  cases holds with
  | map _ _ same => exact same
  | vector _ _ same => exact same
  | singular _ _ holds => exact holds.schema_eq

/-! ## Composite fields -/

theorem Kind.Holds.exists_message {s : Schema} {kind : Kind} {v : Value} (holds : kind.Holds s v)
    {index : MessageIndex} (named : kind.messageIndex? = some index) :
    ∃ m, v = .message m ∧ m.schema = s ∧ m.index = index := by
  cases holds with
  | scalar => simp [Kind.messageIndex?] at named
  | message type same =>
    rw [type, Option.some.injEq] at named
    exact ⟨_, rfl, same, named⟩

/-- What a composite field holds is a composite. -/
theorem Field.Holds.exists_composite {s : Schema} {f : Field} {v : Value} (holds : f.Holds s v)
    (composite : f.isComposite = true) : ∃ c, v = .composite c := by
  cases holds with
  | map => exact ⟨_, rfl⟩
  | vector => exact ⟨_, rfl⟩
  | singular unkeyed single holds =>
    have message : f.kind.messageIndex?.isSome = true := by
      simpa [Field.isComposite, single, Field.isMap, unkeyed] using composite
    obtain ⟨index, named⟩ := Option.isSome_iff_exists.1 message
    obtain ⟨m, rfl, _⟩ := holds.exists_message named
    exact ⟨_, rfl⟩

/-- A message as it is made has no fields and no extensions, and knows its type. -/
theorem Message.zero_eq_ok {s : Schema} {index : MessageIndex} {m : Message}
    (made : zero s index = .ok m) :
    ∃ t, s.type? index = some t ∧
      m = { schema := s, index, fields := ∅, extensions := .empty,
            unknown := { isSupported := t.keepsUnknown } } := by
  unfold zero at made
  split at made
  · simp at made
  · rename_i t found
    exact ⟨t, Schema.type?_of_typeAt found, (Except.ok.inj made).symm⟩

/-- A message of a named type can be made. -/
theorem Schema.Names.exists_zero {s : Schema} {kind : Kind} (names : s.Names kind)
    {index : MessageIndex} (named : kind.messageIndex? = some index) :
    ∃ m, Message.zero s index = .ok m := by
  obtain ⟨t, found⟩ := names index named
  rw [Message.zero, typeAt_of_type? found]
  exact ⟨_, rfl⟩

/-- A message as it is made suits the kind that names its type. -/
theorem Kind.holds_of_zero {s : Schema} {kind : Kind} {index : MessageIndex} {m : Message}
    (named : kind.messageIndex? = some index) (made : Message.zero s index = .ok m) :
    kind.Holds s (.message m) := by
  obtain ⟨t, _, rfl⟩ := Message.zero_eq_ok made
  exact .message named rfl

/-- A composite field whose kind the schema has opens with a composite that suits it. -/
theorem Field.exists_initial {s : Schema} {f : Field} (names : s.Names f.kind)
    (composite : f.isComposite = true) :
    ∃ c, f.initial s = .ok (.composite c) ∧ f.Holds s (.composite c) := by
  cases keyed : f.mapKey with
  | some key =>
    exact ⟨.map (.empty s key f.kind), by simp only [Field.initial, keyed], .map keyed rfl rfl⟩
  | none =>
    by_cases list : f.isList = true
    · refine ⟨.vector (.empty s f.kind), ?_, .vector list rfl rfl⟩
      simp only [Field.initial, keyed, list, ↓reduceIte]
    · have single : f.isList = false := by simpa using list
      have message : f.kind.messageIndex?.isSome = true := by
        simpa [Field.isComposite, single, Field.isMap, keyed] using composite
      obtain ⟨index, named⟩ := Option.isSome_iff_exists.1 message
      obtain ⟨m, made⟩ := names.exists_zero named
      refine ⟨.message m, ?_, .singular keyed single (Kind.holds_of_zero named made)⟩
      simp [Field.initial, keyed, single, named, made]

/-- A container that is stored but holds nothing is the one its field opens with. -/
theorem Field.Holds.initial_of_hidden {s : Schema} {f : Field} {v : Value} (holds : f.Holds s v)
    (hidden : v.isPopulated = false) : f.initial s = .ok v := by
  cases holds with
  | @map m keyed kind same =>
    obtain ⟨schema, key, value, ⟨rows⟩⟩ := m
    have empty : rows = [] := by simpa [Value.isPopulated] using hidden
    subst empty kind same
    simp only [Field.initial, keyed]
    rfl
  | @vector v list kind same =>
    obtain ⟨schema, kind', items⟩ := v
    have empty : items = [] := by simpa [Value.isPopulated] using hidden
    have keyed : f.mapKey = none := by
      simp only [Field.isList, Bool.and_eq_true, Option.isNone_iff_eq_none] at list
      exact list.2
    subst empty kind same
    simp only [Field.initial, keyed, list, ↓reduceIte]
    rfl
  | singular _ _ holds => simp [holds.isPopulated] at hidden

end DynamicMessage
