/-
# Proofs.HiddenRows.Like -- messages that differ in hidden rows

A vector or a map that holds nothing can be stored and is not populated.  `Message.Like R` relates
two messages of one type, schema and registry: a field stored in both holds values that `R`
relates, and a field stored in one of them only is hidden there.

The relation on the values is a parameter.  What the calls need of it is collected in `Agreement`:
related values look the same to every check (`Value.face`), and new composites are related to
themselves.  With equality for `R` the messages differ in their own hidden rows only.
-/
import DynamicMessage.Proofs.Container.Invariant
import Mathlib.Data.List.Forall2

namespace DynamicMessage

set_option autoImplicit false

/-! ## What the checks see of a value -/

/-- What the checks see of a value. -/
inductive Face where
  | null
  | scalar (x : Scalar)
  | composite (header : Header) (populated : Bool)

/-- The face of a value. -/
def Value.face : Value → Face
  | .null => .null
  | .scalar x => .scalar x
  | .composite c => .composite c.header (Value.composite c).isPopulated

section Face

variable {v v' : Value}

/-- Two values with one face are both null, one scalar, or composites with one header. -/
theorem Value.face_cases (same : v.face = v'.face) :
    v = v' ∨ ∃ c c', v = .composite c ∧ v' = .composite c' ∧ c.header = c'.header ∧
      v.isPopulated = v'.isPopulated := by
  cases v with
  | null => cases v' <;> simp_all [Value.face]
  | scalar x => cases v' <;> simp_all [Value.face]
  | composite c =>
    cases v' with
    | null => simp [Value.face] at same
    | scalar x => simp [Value.face] at same
    | composite c' =>
      simp only [Value.face, Face.composite.injEq] at same
      exact .inr ⟨c, c', rfl, rfl, same.1, same.2⟩

theorem Value.isPopulated_of_face (same : v.face = v'.face) : v.isPopulated = v'.isPopulated := by
  rcases Value.face_cases same with rfl | ⟨c, c', _, _, _, populated⟩
  · rfl
  · exact populated

theorem Value.isNull_of_face (same : v.face = v'.face) : v.isNull = v'.isNull := by
  rcases Value.face_cases same with rfl | ⟨c, c', rfl, rfl, _⟩
  · rfl
  · rfl

theorem Value.isZero_of_face (same : v.face = v'.face) : v.isZero = v'.isZero := by
  rcases Value.face_cases same with rfl | ⟨c, c', rfl, rfl, _⟩
  · rfl
  · rfl

/-- Whether and why a value is no singular value of a kind is known from its face. -/
theorem Schema.misfit?_of_face (same : v.face = v'.face) (s : Schema) (kind : Kind) :
    s.misfit? kind v = s.misfit? kind v' := by
  rcases Value.face_cases same with rfl | ⟨c, c', rfl, rfl, header, _⟩
  · rfl
  · cases c <;> cases c' <;> simp only [Composite.header, reduceCtorEq] at header
    case message m m' =>
      simp only [Header.message.injEq] at header
      cases kind <;>
        simp [Schema.misfit?, Kind.messageIndex?, header, Message.type, Value.mismatch,
          Value.member, Composite.member]
    case vector => cases kind <;> rfl
    case map => cases kind <;> rfl

/-- Whether and why a value is no value of a field is known from its face. -/
theorem Field.misfit?_of_face (same : v.face = v'.face) (f : Field) (s : Schema) :
    f.misfit? s v = f.misfit? s v' := by
  have singular := s.misfit?_of_face same f.kind
  rcases Value.face_cases same with rfl | ⟨c, c', rfl, rfl, header, _⟩
  · rfl
  · cases c <;> cases c' <;> simp only [Composite.header, reduceCtorEq] at header
    case message m m' =>
      simp [Field.misfit?, singular, Value.mismatch, Value.member, Composite.member]
    case vector v v' =>
      simp only [Header.vector.injEq] at header
      simp [Field.misfit?, singular, header, Value.mismatch, Value.member, Composite.member]
    case map m m' =>
      simp only [Header.map.injEq] at header
      simp [Field.misfit?, singular, header, Value.mismatch, Value.member, Composite.member]

theorem Message.isKept_of_face (same : v.face = v'.face) (f : Field) :
    Message.isKept f v = Message.isKept f v' := by
  simp only [Message.isKept, Value.isZero_of_face same, Value.isPopulated_of_face same]

end Face

/-! ## Messages up to hidden rows -/

/-- What is stored in a place of two messages: related values, or a hidden one in one of them. -/
inductive SlotLike (R : Value → Value → Prop) : Option Value → Option Value → Prop where
  | absent : SlotLike R none none
  | both {v v' : Value} (related : R v v') : SlotLike R (some v) (some v')
  | first {v : Value} (hidden : v.isPopulated = false) : SlotLike R (some v) none
  | second {v' : Value} (hidden : v'.isPopulated = false) : SlotLike R none (some v')

/-- Messages of one type, schema and registry that store related values, up to hidden rows. -/
inductive Message.Like (R : Value → Value → Prop) : Message → Message → Prop where
  | intro {schema : Schema} {index : MessageIndex} {fields fields' : Table FieldNumber Value}
      {extensions : Registry} {unknown : UnknownStore}
      (slots : ∀ n, SlotLike R (fields.find? n) (fields'.find? n)) :
      Message.Like R ⟨schema, index, fields, extensions, unknown⟩
        ⟨schema, index, fields', extensions, unknown⟩

/-- What the calls need of a relation between values. -/
structure Agreement (R : Value → Value → Prop) : Prop where
  null : R .null .null
  face : ∀ {v v' : Value}, R v v' → v.face = v'.face
  fresh : ∀ {s : Schema} {c : Composite}, c.Fresh s → R (.composite c) (.composite c)

/-- Equal values agree. -/
theorem Agreement.eq : Agreement Eq where
  null := rfl
  face same := by rw [same]
  fresh _ := rfl

namespace Message.Like

variable {R : Value → Value → Prop} {m m' : Message}

theorem of_eq (schema : m'.schema = m.schema) (index : m'.index = m.index)
    (extensions : m'.extensions = m.extensions) (unknown : m'.unknown = m.unknown)
    (slots : ∀ n, SlotLike R (m.fields.find? n) (m'.fields.find? n)) : Message.Like R m m' := by
  cases m
  cases m'
  cases schema
  cases index
  cases extensions
  cases unknown
  exact .intro slots

theorem schema_eq (like : Message.Like R m m') : m'.schema = m.schema := by
  cases like
  rfl

theorem index_eq (like : Message.Like R m m') : m'.index = m.index := by
  cases like
  rfl

theorem extensions_eq (like : Message.Like R m m') : m'.extensions = m.extensions := by
  cases like
  rfl

theorem unknown_eq (like : Message.Like R m m') : m'.unknown = m.unknown := by
  cases like
  rfl

theorem slots (like : Message.Like R m m') (n : FieldNumber) :
    SlotLike R (m.fields.find? n) (m'.fields.find? n) := by
  cases like with
  | intro slots => exact slots n

theorem type_eq (like : Message.Like R m m') : m'.type = m.type := by
  rw [Message.type, Message.type, like.schema_eq, like.index_eq]

theorem field?_eq (like : Message.Like R m m') (t : MessageType) (n : FieldNumber) :
    m'.field? t n = m.field? t n := by
  rw [Message.field?, Message.field?, like.extensions_eq]

theorem unset (like : Message.Like R m m') (n : FieldNumber) :
    Message.Like R (m.unset n) (m'.unset n) := by
  refine .of_eq like.schema_eq like.index_eq like.extensions_eq like.unknown_eq ?_
  intro k
  rw [find?_unset, find?_unset]
  split
  · exact .absent
  · exact like.slots k

theorem put (like : Message.Like R m m') (n : FieldNumber) {v v' : Value} (related : R v v') :
    Message.Like R (m.put n v) (m'.put n v') := by
  refine .of_eq like.schema_eq like.index_eq like.extensions_eq like.unknown_eq ?_
  intro k
  rw [find?_put, find?_put]
  split
  · exact .both related
  · exact like.slots k

theorem unsetSiblings (like : Message.Like R m m') (t : MessageType) (n : FieldNumber)
    (f : Field) : Message.Like R (m.unsetSiblings t n f) (m'.unsetSiblings t n f) := by
  unfold Message.unsetSiblings
  generalize Message.siblings t n f = ns
  induction ns generalizing m m' with
  | nil => exact like
  | cons k ns ih => exact ih (like.unset k)

/-- Other extensions, the same in both, change nothing about the rows. -/
theorem with_extensions (like : Message.Like R m m') (extensions : Registry) :
    Message.Like R { m with extensions } { m' with extensions } :=
  .of_eq like.schema_eq like.index_eq rfl like.unknown_eq like.slots

/-- Other unrecognised records, the same in both, change nothing about the rows. -/
theorem with_unknown (like : Message.Like R m m') (unknown : UnknownStore) :
    Message.Like R { m with unknown } { m' with unknown } :=
  .of_eq like.schema_eq like.index_eq like.extensions_eq rfl like.slots

end Message.Like

end DynamicMessage
