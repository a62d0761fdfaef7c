/-
# Message.Basic -- new messages and what can be read of a message

Reading sees populated fields only: a vector or a map that holds nothing is stored after it was
opened for editing, and is not listed, counted or visited.  `get` never substitutes a default; an
unset field reads as null.
-/
import DynamicMessage.Value

namespace DynamicMessage

set_option autoImplicit false

namespace Message

/-! ## New messages -/

/-- A message without fields, of a type that is known to exist. -/
def zero (s : Schema) (index : MessageIndex) : Except Error Message :=
  match s.typeAt index with
  | .error e => .error e
  | .ok t =>
    .ok { schema := s, index, fields := ∅, extensions := .empty,
          unknown := { isSupported := t.keepsUnknown } }

/-- A message without fields, of the type at a position. -/
def new (s : Schema) (index : MessageIndex) : Except Error Message :=
  match s.type? index with
  | none => .error (.messageNotFound (.index index))
  | some _ => zero s index

/-- A message without fields, of the type of a name. -/
def newByName (s : Schema) (name : String) : Except Error Message :=
  match s.indexNamed? name with
  | none => .error (.messageNotFound (.name name))
  | some index => zero s index

/-! ## Its type -/

/-- The declaration of the message's type. -/
def type (m : Message) : Except Error MessageType := m.schema.typeAt m.index

/-- The shape of a field that the type declares or an extension adds. -/
def field? (m : Message) (t : MessageType) (n : FieldNumber) : Option Field :=
  match t.field? n with
  | some f => some f
  | none => (m.extensions.findByNumber? n).map (·.field)

/-! ## Its fields -/

/-- The populated fields, in an order that nothing promises. -/
def populated (m : Message) : List (FieldNumber × Value) :=
  m.fields.rows.filter (·.2.isPopulated)

/-- The numbers of the populated fields. -/
def list (m : Message) : List FieldNumber := m.populated.map (·.1)

/-- The number of populated fields. -/
def size (m : Message) : Nat := (m.fields.values.filter (·.isPopulated)).length

/-- Whether no field is populated. -/
def isEmpty (m : Message) : Bool := m.size = 0

/-- Whether a field is populated. -/
def has (m : Message) (n : FieldNumber) : Bool :=
  match m.fields.find? n with
  | some v => v.isPopulated
  | none => false

/-- The value of a populated field, else null. -/
def get (m : Message) (n : FieldNumber) : Value :=
  match m.fields.find? n with
  | some v => if v.isPopulated then v else .null
  | none => .null

/-- A field is populated exactly when it does not read as null. -/
theorem has_iff_get_ne_null (m : Message) (n : FieldNumber) : m.has n = true ↔ m.get n ≠ .null := by
  unfold has get
  cases m.fields.find? n with
  | none => simp
  | some v =>
    cases populated : v.isPopulated with
    | false => simp [populated]
    | true =>
      have notNull : v ≠ .null := by
        rintro rfl
        simp [Value.isPopulated] at populated
      simp [populated, notNull]

/-- Goes through the populated fields. -/
def range {σ : Type} (m : Message) (visitor : FieldNumber × Value → σ → ForInStep σ) (s : σ) : σ :=
  visit visitor s m.populated

end Message

end DynamicMessage
